import Mathlib.Data.List.Nodup
import NumberingPlan.Proofs.Descriptor.Lengths

/-! A pair of length sets is a canonical form of the two lists it is made from. The order of a list
is lost and nothing else is, so where two pairs are compared, their sets are. -/

namespace NumberingPlan

namespace LengthPair

section Distinct

variable {values reordered : List Int} {set : LengthSet}

theorem distinct?_perm (order : reordered.Perm values) :
    distinct? reordered = distinct? values := by
  simp only [distinct?, LengthSet.ofList_perm order, order.length_eq]

/-- A list makes a set when it is the ascending list of the set in some order. -/
theorem distinct?_eq_some : distinct? values = some set ↔ values.Perm set.toList := by
  constructor
  · intro made
    simp only [distinct?, Option.ite_none_right_eq_some, Option.some.injEq] at made
    obtain ⟨sameLength, rfl⟩ := made
    -- The set has each value once at least, so a list of its length has each once at most.
    have contained : (LengthSet.ofList values).toList.Subperm values :=
      List.subperm_of_subset (LengthSet.nodup _) fun x => (LengthSet.mem_ofList x values).1
    exact (contained.perm_of_length_le sameLength.ge).symm
  · intro order
    rw [distinct?_perm order, distinct?_toList]

theorem distinct?_of_nodup (once : values.Nodup) :
    distinct? values = some (.ofList values) := by
  have order : values.Perm (LengthSet.ofList values).toList :=
    (List.perm_ext_iff_of_nodup once (LengthSet.nodup _)).2 fun x =>
      (LengthSet.mem_ofList x values).symm
  exact distinct?_eq_some.2 order

theorem nodup_of_distinct? (made : distinct? values = some set) : values.Nodup :=
  (distinct?_eq_some.1 made).nodup_iff.2 set.nodup

theorem distinct?_eq_none : distinct? values = none ↔ ¬ values.Nodup := by
  constructor
  · intro none once
    rw [distinct?_of_nodup once] at none
    cases none
  · intro again
    exact Option.eq_none_iff_forall_ne_some.2 fun set made => again (nodup_of_distinct? made)

end Distinct

section Made

variable {national localOnly : List Int} {pair : LengthPair}

theorem ofLists_perm {reordered reorderedLocal : List Int} (order : reordered.Perm national)
    (orderLocal : reorderedLocal.Perm localOnly) :
    ofLists reordered reorderedLocal = ofLists national localOnly := by
  simp only [ofLists, distinct?_perm order, distinct?_perm orderLocal]

/-- Two lists make a pair when they are its two ascending lists in some order. -/
theorem ofLists_ok : ofLists national localOnly = .ok pair ↔
    national.Perm pair.national.toList ∧ localOnly.Perm pair.localOnly.toList := by
  constructor
  · intro made
    unfold ofLists at made
    split at made
    · cases made
    · next nationalSet ofNational =>
      split at made
      · cases made
      · next localSet ofLocal =>
        dsimp only at made
        split at made
        · cases made
          exact ⟨distinct?_eq_some.1 ofNational, distinct?_eq_some.1 ofLocal⟩
        · cases made
  · rintro ⟨order, orderLocal⟩
    rw [ofLists_perm order orderLocal, ofLists_toList pair.disjoint]

/-- Why two lists are refused. A length that returns is told before one that is in both lists, and
the national lengths are looked at first. -/
inductive Refused (national localOnly : List Int) : Fault → Prop where
  | nationalRepeated (again : ¬ national.Nodup) : Refused national localOnly .nationalRepeated
  | localOnlyRepeated (once : national.Nodup) (again : ¬ localOnly.Nodup) :
      Refused national localOnly .localOnlyRepeated
  | overlap (once : national.Nodup) (onceLocal : localOnly.Nodup) {common : LengthSet}
      (members : ∀ x, x ∈ common ↔ x ∈ national ∧ x ∈ localOnly) (shared : common ≠ .empty) :
      Refused national localOnly (.overlap common.toList)

theorem ofLists_error {fault : Fault} :
    ofLists national localOnly = .error fault ↔ Refused national localOnly fault := by
  constructor
  · intro failed
    unfold ofLists at failed
    split at failed
    · next missing =>
      cases failed
      exact .nationalRepeated (distinct?_eq_none.1 missing)
    · next nationalSet ofNational =>
      split at failed
      · next missing =>
        cases failed
        exact .localOnlyRepeated (nodup_of_distinct? ofNational) (distinct?_eq_none.1 missing)
      · next localSet ofLocal =>
        dsimp only at failed
        split at failed
        · cases failed
        · next shared =>
          cases failed
          refine .overlap (nodup_of_distinct? ofNational) (nodup_of_distinct? ofLocal)
            (fun x => ?_) fun none => shared (congrArg LengthSet.toList none)
          rw [LengthSet.mem_inter, (distinct?_eq_some.1 ofNational).mem_iff,
            (distinct?_eq_some.1 ofLocal).mem_iff]
          rfl
  · intro refused
    cases refused with
    | nationalRepeated again =>
      simp only [ofLists, distinct?_eq_none.2 again]
    | localOnlyRepeated once again =>
      simp only [ofLists, distinct?_of_nodup once, distinct?_eq_none.2 again]
    | @overlap once onceLocal common members shared =>
      have same : (LengthSet.ofList national).inter (.ofList localOnly) = common :=
        LengthSet.ext fun x => by simp [members]
      have some : common.toList ≠ [] := fun none =>
        shared (LengthSet.isEmpty_iff.1 (List.isEmpty_iff.2 none))
      simp only [ofLists, distinct?_of_nodup once, distinct?_of_nodup onceLocal, same,
        dif_neg some]

theorem exists_refused : (∃ fault, Refused national localOnly fault) ↔
    ¬ national.Nodup ∨ ¬ localOnly.Nodup ∨ ∃ x, x ∈ national ∧ x ∈ localOnly := by
  constructor
  · rintro ⟨fault, refused⟩
    cases refused with
    | nationalRepeated again => exact .inl again
    | localOnlyRepeated once again => exact .inr (.inl again)
    | @overlap once onceLocal common members shared =>
      obtain ⟨x, member⟩ : ∃ x, x ∈ common := by
        by_contra none
        exact shared (LengthSet.eq_empty_iff.2 (not_exists.1 none))
      exact .inr (.inr ⟨x, (members x).1 member⟩)
  · intro wrong
    by_cases once : national.Nodup
    · by_cases onceLocal : localOnly.Nodup
      · obtain ⟨x, both⟩ : ∃ x, x ∈ national ∧ x ∈ localOnly := by
          simpa [once, onceLocal] using wrong
        have members : ∀ x, x ∈ (LengthSet.ofList national).inter (.ofList localOnly) ↔
            x ∈ national ∧ x ∈ localOnly := fun x => by simp
        have shared : (LengthSet.ofList national).inter (.ofList localOnly) ≠ .empty := fun none =>
          LengthSet.eq_empty_iff.1 none x ((members x).2 both)
        exact ⟨_, .overlap once onceLocal members shared⟩
      · exact ⟨_, .localOnlyRepeated once onceLocal⟩
    · exact ⟨_, .nationalRepeated once⟩

/-- Equal pairs are made from lists with the same members. -/
theorem made_eq_iff {others othersLocal : List Int} {other : LengthPair}
    (made : ofLists national localOnly = .ok pair)
    (madeOther : ofLists others othersLocal = .ok other) :
    pair = other ↔ (∀ x, x ∈ national ↔ x ∈ others) ∧ ∀ x, x ∈ localOnly ↔ x ∈ othersLocal := by
  obtain ⟨order, orderLocal⟩ := ofLists_ok.1 made
  obtain ⟨orderOther, orderOtherLocal⟩ := ofLists_ok.1 madeOther
  simp only [order.mem_iff, orderLocal.mem_iff, orderOther.mem_iff, orderOtherLocal.mem_iff]
  constructor
  · rintro rfl
    exact ⟨fun x => Iff.rfl, fun x => Iff.rfl⟩
  · rintro ⟨members, membersLocal⟩
    exact ext (LengthSet.ext members) (LengthSet.ext membersLocal)

end Made

section Canonical

variable {national localOnly : List Int} {general stored : LengthPair}
  {declared declaredLocal : LengthSet}

/-- National lengths are left out where they are the general ones as a set, whatever the order in
which the general ones were listed. -/
theorem resolved_national (made : ofLists national localOnly = .ok general)
    (resolved : resolveLengths declared declaredLocal (some general) = .ok stored) :
    ((∀ x, x ∈ declared ↔ x ∈ national) → stored.national = .empty) ∧
    (¬ (∀ x, x ∈ declared ↔ x ∈ national) → stored.national = declared) := by
  have kept := (resolveLengths_ok.1 resolved).2.1
  have same : (∀ x, x ∈ declared ↔ x ∈ national) ↔ declared = general.national := by
    simp only [(ofLists_ok.1 made).1.mem_iff, LengthSet.eq_iff, LengthSet.mem_def]
  rw [same, kept, storedNational]
  exact ⟨fun equal => if_pos equal, fun differs => if_neg differs⟩

/-- The pair keeps the members of two lists and nothing else of them. -/
structure StandsFor (pair : LengthPair) (national localOnly : List Int) : Prop where
  ascending : pair.national.toList.Pairwise (· < ·) ∧ pair.localOnly.toList.Pairwise (· < ·)
  members : (∀ x, x ∈ pair.national.toList ↔ x ∈ national) ∧
    ∀ x, x ∈ pair.localOnly.toList ↔ x ∈ localOnly
  reordered : ∀ others othersLocal, others.Perm national → othersLocal.Perm localOnly →
    ofLists others othersLocal = .ok pair
  remade : ofLists pair.national.toList pair.localOnly.toList = .ok pair
  equal : ∀ others othersLocal other, ofLists others othersLocal = .ok other →
    (pair = other ↔ (∀ x, x ∈ national ↔ x ∈ others) ∧ ∀ x, x ∈ localOnly ↔ x ∈ othersLocal)
  compared : ∀ declared : LengthSet, declared.toList = pair.national.toList ↔
    ∀ x, x ∈ declared ↔ x ∈ national
  compressed : ∀ declared declaredLocal stored,
    resolveLengths declared declaredLocal (some pair) = .ok stored →
      ((∀ x, x ∈ declared ↔ x ∈ national) → stored.national = .empty) ∧
      (¬ (∀ x, x ∈ declared ↔ x ∈ national) → stored.national = declared)

/-- Two lists are refused when one of them repeats a length or when they share one. Otherwise they
make a pair that stands for them. -/
theorem ofLists_canonical (national localOnly : List Int) :
    ((∃ fault, ofLists national localOnly = .error fault) ↔
      ¬ national.Nodup ∨ ¬ localOnly.Nodup ∨ ∃ x, x ∈ national ∧ x ∈ localOnly) ∧
    (∀ fault, ofLists national localOnly = .error fault ↔ Refused national localOnly fault) ∧
    ∀ pair, ofLists national localOnly = .ok pair → pair.StandsFor national localOnly := by
  refine ⟨?_, fun fault => ofLists_error, fun pair made => ?_⟩
  · simp only [ofLists_error, exists_refused]
  · obtain ⟨order, orderLocal⟩ := ofLists_ok.1 made
    constructor
    case ascending => exact ⟨pair.national.sorted, pair.localOnly.sorted⟩
    case members => exact ⟨fun x => order.mem_iff.symm, fun x => orderLocal.mem_iff.symm⟩
    case reordered =>
      intro others othersLocal again againLocal
      rw [ofLists_perm again againLocal, made]
    case remade => exact ofLists_toList pair.disjoint
    case equal => exact fun others othersLocal other => made_eq_iff made
    case compared =>
      intro declared
      simp only [LengthSet.toList_inj, LengthSet.eq_iff, order.mem_iff, LengthSet.mem_def]
    case compressed => exact fun declared declaredLocal stored => resolved_national made

theorem ofLists_canonical_unordered : ∃ pair, ofLists [10, 7, 9] [6, 5] = .ok pair ∧
    pair.national.toList = [7, 9, 10] ∧ pair.localOnly.toList = [5, 6] ∧
    pair.StandsFor [10, 7, 9] [6, 5] := by
  let pair : LengthPair := ⟨⟨[7, 9, 10], by decide⟩, ⟨[5, 6], by decide⟩, by
    simp only [LengthSet.mem_def]
    decide⟩
  have made : ofLists [10, 7, 9] [6, 5] = .ok pair := ofLists_ok.2 ⟨by decide, by decide⟩
  exact ⟨pair, made, rfl, rfl, (ofLists_canonical [10, 7, 9] [6, 5]).2.2 pair made⟩

end Canonical

end LengthPair

end NumberingPlan

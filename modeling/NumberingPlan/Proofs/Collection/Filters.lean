import NumberingPlan.Proofs.Collection.Profiles

/-! Filters one after the other. Two filters do together what one filter does: it strips if either
strips, clears if either clears and keeps what both keep. So their order does not matter, a second
time changes nothing, and the filter that takes nothing away leaves every record as it is. -/

namespace NumberingPlan

theorem NumberType.ofKey?_eq_some {name : String} {kind : NumberType} :
    ofKey? name = some kind ↔ name = kind.key := by
  constructor
  · intro found
    have same := List.find?_some found
    exact (beq_iff_eq.1 same).symm
  · rintro rfl
    cases kind <;> decide

namespace Filter

/-- What two filters come to. -/
def both (a b : Filter) : Filter where
  stripSamples := a.stripSamples || b.stripSamples
  kept := match a.kept, b.kept with
    | none, kinds => kinds
    | kinds, none => kinds
    | some kinds, some others => some (kinds.filter others.contains)
  clearOptional := a.clearOptional || b.clearOptional

/-- A filter by the names of the kinds it keeps, where a name of no kind keeps nothing. -/
def ofNames (stripSamples : Bool) (names : Option (List String)) (clearOptional : Bool) : Filter :=
  ⟨stripSamples, names.map (·.filterMap NumberType.ofKey?), clearOptional⟩

section Laws

variable (a b : Filter)

theorem keeps_both (kind : NumberType) :
    (a.both b).keeps kind = (a.keeps kind && b.keeps kind) := by
  unfold keeps both
  cases a.kept <;> cases b.kept <;> simp

theorem keeps_ofNames (stripSamples clearOptional : Bool) (names : List String)
    (kind : NumberType) :
    (ofNames stripSamples (some names) clearOptional).keeps kind = names.contains kind.key := by
  simp [keeps, ofNames, NumberType.ofKey?_eq_some]

theorem applyDesc_applyDesc (desc : Descriptor) :
    a.applyDesc (b.applyDesc desc) = (a.both b).applyDesc desc := by
  unfold applyDesc both
  cases a.stripSamples <;> cases b.stripSamples <;> rfl

theorem applyDesc_lengths (desc : Descriptor) : (a.applyDesc desc).lengths = desc.lengths := by
  unfold applyDesc
  split <;> rfl

theorem applyTyped_applyTyped (typed : NumberType → Option Descriptor) :
    a.applyTyped (b.applyTyped typed) = (a.both b).applyTyped typed := by
  funext kind
  unfold applyTyped
  rw [keeps_both]
  cases a.keeps kind <;> cases b.keeps kind <;> simp [Function.comp_def, applyDesc_applyDesc]

theorem apply_apply (territory : Territory) :
    a.apply (b.apply territory) = (a.both b).apply territory := by
  have clear : (a.both b).clearOptional = (a.clearOptional || b.clearOptional) := rfl
  unfold apply
  simp only [← applyTyped_applyTyped, clear]
  cases a.clearOptional <;> cases b.clearOptional <;> rfl

variable {a b}

/-- A filter is told by what it strips, keeps and clears. -/
theorem apply_congr (strip : a.stripSamples = b.stripSamples)
    (keep : ∀ kind, a.keeps kind = b.keeps kind) (clear : a.clearOptional = b.clearOptional) :
    a.apply = b.apply := by
  have desc : a.applyDesc = b.applyDesc := by
    funext desc
    simp only [applyDesc, strip]
  have typed : a.applyTyped = b.applyTyped := by
    funext typed kind
    simp only [applyTyped, keep, desc]
  funext territory
  simp only [apply, typed, clear]

theorem both_comm : (a.both b).apply = (b.both a).apply :=
  apply_congr (Bool.or_comm _ _) (fun kind => by simp only [keeps_both, Bool.and_comm])
    (Bool.or_comm _ _)

theorem both_self : (a.both a).apply = a.apply :=
  apply_congr (Bool.or_self _) (fun kind => by simp only [keeps_both, Bool.and_self])
    (Bool.or_self _)

theorem isEmpty_iff : a.isEmpty = true ↔ a = {} := by
  obtain ⟨strip, kept, clear⟩ := a
  simp [isEmpty, and_assoc]

/-- Filters are a commutative idempotent monoid: one after another they come to one filter, in
either order and as often as they are repeated, and the empty one does nothing. A kind is kept by
both or not at all, by the names that are kept; a kept kind has its pattern and lengths, and the
core of the record stays. -/
theorem apply_laws (a b : Filter) (territory : Territory) :
    a.apply (b.apply territory) = b.apply (a.apply territory) ∧
    a.apply (b.apply territory) = (a.both b).apply territory ∧
    (∀ kind, (a.both b).keeps kind = (a.keeps kind && b.keeps kind)) ∧
    (∀ strip clear names kind,
      (ofNames strip (some names) clear).keeps kind = names.contains kind.key) ∧
    a.apply (a.apply territory) = a.apply territory ∧
    (a.isEmpty = true ↔ a = {}) ∧ apply {} territory = territory ∧
    territory.SameCore (a.apply territory) ∧
    ∀ kind, ((a.apply territory).typed kind).map (fun desc => (desc.pattern, desc.lengths)) =
      if a.keeps kind then (territory.typed kind).map (fun desc => (desc.pattern, desc.lengths))
      else none := by
  refine ⟨?_, apply_apply a b territory, keeps_both a b, fun strip clear names kind =>
    keeps_ofNames strip clear names kind, ?_, isEmpty_iff, apply_empty territory,
    apply_sameCore a territory, fun kind => ?_⟩
  · rw [apply_apply, apply_apply, both_comm]
  · rw [apply_apply, both_self]
  · rw [apply_typed, applyTyped]
    split
    · simp [Function.comp_def, applyDesc_pattern, applyDesc_lengths]
    · rfl

end Laws

end Filter

end NumberingPlan

import Mathlib.Data.List.Perm.Basic

/-! What a key has in a list of entries. The first entry of the key counts; a key that is there
once has the same value in any order of the entries. Entries by ascending key are told by what
each key has. -/

namespace NumberingPlan

variable {κ α β : Type}

section Keys

variable [BEq κ] [LawfulBEq κ] {key other : κ} {value : α} {entries others : List (κ × α)}

theorem lookup_cons_of_ne (apart : key ≠ other) :
    ((other, value) :: entries).lookup key = entries.lookup key := by
  rw [List.lookup_cons, beq_false_of_ne apart]

theorem lookup_of_notMem (absent : key ∉ entries.map (·.1)) : entries.lookup key = none := by
  rw [List.lookup_eq_none_iff]
  intro entry among
  have apart : key ≠ entry.1 := fun same => absent (same ▸ List.mem_map_of_mem among)
  simpa using apart

theorem mem_of_lookup (found : entries.lookup key = some value) : (key, value) ∈ entries := by
  obtain ⟨before, after, rfl, -⟩ := List.lookup_eq_some_iff.1 found
  simp

theorem lookup_map (change : α → β) :
    (entries.map fun entry => (entry.1, change entry.2)).lookup key =
      (entries.lookup key).map change := by
  induction entries with
  | nil => rfl
  | cons entry rest ih =>
    obtain ⟨first, value⟩ := entry
    by_cases here : key = first
    · subst here
      simp only [List.map_cons, List.lookup_cons_self, Option.map_some]
    · rw [List.map_cons, lookup_cons_of_ne here, lookup_cons_of_ne here, ih]

theorem lookup_perm (same : entries.Perm others) (once : (entries.map (·.1)).count key ≤ 1) :
    entries.lookup key = others.lookup key := by
  induction same with
  | nil => rfl
  | cons entry _ ih =>
    obtain ⟨first, value⟩ := entry
    by_cases here : key = first
    · subst here
      rw [List.lookup_cons_self, List.lookup_cons_self]
    · rw [lookup_cons_of_ne here, lookup_cons_of_ne here]
      rw [List.map_cons, List.count_cons] at once
      exact ih (by omega)
  | swap entry next rest =>
    obtain ⟨first, value⟩ := entry
    obtain ⟨second, later⟩ := next
    by_cases here : key = first
    · subst here
      have apart : key ≠ second := by
        rintro rfl
        simp at once
      rw [lookup_cons_of_ne apart, List.lookup_cons_self, List.lookup_cons_self]
    · by_cases there : key = second
      · subst there
        rw [lookup_cons_of_ne here, List.lookup_cons_self, List.lookup_cons_self]
      · simp only [lookup_cons_of_ne here, lookup_cons_of_ne there]
  | trans first _ ih later =>
    rw [ih once]
    exact later ((first.map _).count_eq key ▸ once)

end Keys

section Ascending

variable {key other : String} {value : α} {entries others : List (String × α)}

/-- Entries by strictly ascending key, compared character by character. -/
def Ascending (entries : List (String × α)) : Prop := (entries.map (·.1)).Pairwise (· < ·)

theorem ascending_cons :
    Ascending ((key, value) :: entries) ↔
      (∀ later ∈ entries.map (·.1), key < later) ∧ Ascending entries :=
  List.pairwise_cons

theorem Ascending.nodup (ascending : Ascending entries) : (entries.map (·.1)).Nodup := by
  refine List.Pairwise.imp ?_ ascending
  rintro key _ less rfl
  exact String.lt_irrefl key less

/-- A key below all others is not there. -/
theorem lookup_of_lt (below : ∀ later ∈ entries.map (·.1), key < later) :
    entries.lookup key = none :=
  lookup_of_notMem fun listed => String.lt_irrefl key (below key listed)

theorem Ascending.lookup_of_lt_first (ascending : Ascending ((other, value) :: entries))
    (less : key < other) : ((other, value) :: entries).lookup key = none := by
  refine lookup_of_lt fun later listed => ?_
  rcases List.mem_cons.1 listed with rfl | behind
  · exact less
  · exact String.lt_trans less ((ascending_cons.1 ascending).1 later behind)

theorem Ascending.ext (ascending : Ascending entries) (ascendingToo : Ascending others)
    (same : ∀ key, entries.lookup key = others.lookup key) : entries = others := by
  induction entries generalizing others with
  | nil =>
    cases others with
    | nil => rfl
    | cons entry rest =>
      have missing := same entry.1
      rw [List.lookup_nil, List.lookup_cons_self] at missing
      cases missing
  | cons entry rest ih =>
    obtain ⟨key, value⟩ := entry
    cases others with
    | nil =>
      have missing := same key
      rw [List.lookup_nil, List.lookup_cons_self] at missing
      cases missing
    | cons next others =>
      obtain ⟨other, old⟩ := next
      have values := same key
      have valuesToo := same other
      rw [List.lookup_cons_self] at values valuesToo
      -- The lesser of the two first keys is missing on the other side.
      rcases Std.lt_trichotomy key other with less | rfl | less
      · rw [ascendingToo.lookup_of_lt_first less] at values
        cases values
      · rw [List.lookup_cons_self] at values
        obtain rfl := Option.some.inj values
        obtain ⟨least, ascending⟩ := ascending_cons.1 ascending
        obtain ⟨leastToo, ascendingToo⟩ := ascending_cons.1 ascendingToo
        congr 1
        refine ih ascending ascendingToo fun later => ?_
        by_cases first : later = key
        · subst first
          rw [lookup_of_lt least, lookup_of_lt leastToo]
        · simpa only [lookup_cons_of_ne first] using same later
      · rw [ascending.lookup_of_lt_first less] at valuesToo
        cases valuesToo

end Ascending

end NumberingPlan

import NumberingPlan.Text.Split

/-! The pieces of a text are the one way to write it as texts without the separator between
separators. -/

namespace NumberingPlan.Text

variable {α : Type} [DecidableEq α] {sep : α}

theorem split_cons_sep (sep : α) (rest : List α) :
    split sep (sep :: rest) = [] :: split sep rest := by
  rw [split]
  split
  · next none => exact absurd none (split_ne_nil sep rest)
  · next some => simp [some]

theorem split_cons_of_ne {c : α} (other : c ≠ sep) (rest : List α) :
    ∃ piece pieces, split sep rest = piece :: pieces ∧
      split sep (c :: rest) = (c :: piece) :: pieces := by
  cases found : split sep rest with
  | nil => exact absurd found (split_ne_nil sep rest)
  | cons piece pieces => exact ⟨piece, pieces, rfl, by simp [split, found, other]⟩

theorem split_append_cons (text rest : List α) :
    split sep (text ++ sep :: rest) = split sep text ++ split sep rest := by
  induction text with
  | nil => exact split_cons_sep sep rest
  | cons c text ih =>
    by_cases same : c = sep
    · subst same
      rw [List.cons_append, split_cons_sep, split_cons_sep, ih, List.cons_append]
    · obtain ⟨piece, pieces, found, whole⟩ := split_cons_of_ne same text
      obtain ⟨first, others, foundLong, wholeLong⟩ := split_cons_of_ne same (text ++ sep :: rest)
      rw [ih, found, List.cons_append, List.cons.injEq] at foundLong
      rw [List.cons_append, wholeLong, whole, ← foundLong.1, ← foundLong.2, List.cons_append]

theorem split_of_not_mem {piece : List α} (clean : sep ∉ piece) : split sep piece = [piece] := by
  induction piece with
  | nil => rfl
  | cons c piece ih =>
    rw [List.mem_cons, not_or] at clean
    rw [split, ih clean.2]
    simp [Ne.symm clean.1]

theorem split_append {piece : List α} (clean : sep ∉ piece) (rest : List α) :
    split sep (piece ++ sep :: rest) = piece :: split sep rest := by
  rw [split_append_cons, split_of_not_mem clean, List.singleton_append]

theorem split_join {pieces : List (List α)} (nonempty : pieces ≠ [])
    (clean : ∀ piece ∈ pieces, sep ∉ piece) : split sep (join sep pieces) = pieces := by
  induction pieces with
  | nil => exact absurd rfl nonempty
  | cons piece rest ih =>
    have first := clean piece List.mem_cons_self
    cases rest with
    | nil => exact split_of_not_mem first
    | cons next rest =>
      rw [join, split_append first, ih (by simp) (fun p member => clean p (.tail _ member))]

theorem intercalate_eq_join {β : Type} (sep : β) (pieces : List (List β)) :
    [sep].intercalate pieces = join sep pieces := by
  induction pieces with
  | nil => rfl
  | cons piece rest ih =>
    cases rest with
    | nil => simp [join]
    | cons next rest =>
      rw [List.intercalate_cons_cons, ih]
      simp [join]

/-- Every piece stands somewhere in the text. -/
theorem infix_of_mem_split {piece text : List α} (member : piece ∈ split sep text) :
    piece <:+: text := by
  rw [← join_split sep text]
  generalize split sep text = pieces at member
  induction pieces with
  | nil => simp at member
  | cons first rest ih =>
    cases rest with
    | nil =>
      obtain rfl : piece = first := by simpa using member
      exact List.infix_refl _
    | cons next rest =>
      rw [join]
      rcases List.mem_cons.1 member with rfl | later
      · exact (List.prefix_append _ _).isInfix
      · exact (ih later).trans ⟨first ++ [sep], [], by simp⟩

end NumberingPlan.Text

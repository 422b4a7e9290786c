/-! Cutting a text at a separator, and the way back. A text with `n` separators has `n + 1`
pieces, the empty text has one empty piece, and joining the pieces gives the text again. -/

namespace NumberingPlan.Text

/-- The pieces between the separators, in order; there is always at least one. -/
def split {α : Type} [DecidableEq α] (sep : α) : List α → List (List α)
  | [] => [[]]
  | c :: rest =>
    match split sep rest with
    | [] => [[c]]
    | piece :: pieces =>
      if c = sep then [] :: piece :: pieces else (c :: piece) :: pieces

/-- The pieces with the separator between neighbours. -/
def join {α : Type} (sep : α) : List (List α) → List α
  | [] => []
  | [piece] => piece
  | piece :: next :: pieces => piece ++ sep :: join sep (next :: pieces)

theorem split_ne_nil {α : Type} [DecidableEq α] (sep : α) (text : List α) :
    split sep text ≠ [] := by
  cases text with
  | nil => simp [split]
  | cons c rest =>
    rw [split]
    split
    · simp
    · split <;> simp

theorem join_split {α : Type} [DecidableEq α] (sep : α) (text : List α) :
    join sep (split sep text) = text := by
  induction text with
  | nil => rfl
  | cons c rest ih =>
    rw [split]
    match pieces : split sep rest with
    | [] => exact absurd pieces (split_ne_nil sep rest)
    | piece :: more =>
      rw [pieces] at ih
      by_cases same : c = sep
      · simp [same, join, ih]
      · cases more with
        | nil => simpa [same, join] using ih
        | cons next tail =>
          simp only [same, if_false, join, List.cons_append, ← ih]

end NumberingPlan.Text

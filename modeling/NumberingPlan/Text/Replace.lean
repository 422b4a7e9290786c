/-! Putting a text in the place of the first occurrence of a token. -/

namespace NumberingPlan.Text

/-- What stands before and after the first occurrence of the token. -/
def findToken (token : List Char) : List Char → Option (List Char × List Char)
  | [] => if token.isEmpty then some ([], []) else none
  | c :: rest =>
    if token.isPrefixOf (c :: rest) then some ([], (c :: rest).drop token.length)
    else (findToken token rest).map fun found => (c :: found.1, found.2)

/-- A text without the token stays as it is. -/
def replaceFirst (token replacement text : List Char) : List Char :=
  match findToken token text with
  | some (before, after) => before ++ replacement ++ after
  | none => text

/-- The two parts and the token between them make up the text. -/
theorem findToken_append {token text before after : List Char}
    (found : findToken token text = some (before, after)) : text = before ++ token ++ after := by
  induction text generalizing before with
  | nil =>
    rw [findToken] at found
    split at found
    · next empty =>
      simp only [Option.some.injEq, Prod.mk.injEq] at found
      obtain ⟨rfl, rfl⟩ := found
      simpa using empty
    · simp at found
  | cons c rest ih =>
    rw [findToken] at found
    split at found
    · next start =>
      simp only [Option.some.injEq, Prod.mk.injEq] at found
      obtain ⟨rfl, rfl⟩ := found
      obtain ⟨tail, split⟩ := List.isPrefixOf_iff_prefix.1 start
      simp [← split]
    · obtain ⟨⟨inner, last⟩, inside, same⟩ := Option.map_eq_some_iff.1 found
      simp only [Prod.mk.injEq] at same
      obtain ⟨rfl, rfl⟩ := same
      simp [ih inside]

end NumberingPlan.Text

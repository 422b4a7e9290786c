/-! Code points. Escapes in a text can name halves of surrogate pairs, which are code points but no
characters. -/

namespace NumberingPlan.Text

inductive CodePoint where
  | char (c : Char)
  | surrogate (value : Nat)
  deriving DecidableEq, Repr

namespace CodePoint

/-- The character, or the replacement character for half of a pair. -/
def shown : CodePoint → Char
  | char c => c
  | surrogate _ => '\ufffd'

/-- The code point below the end of Unicode with that number. -/
def ofNat (value : Nat) : CodePoint :=
  if 0xd800 ≤ value && value < 0xe000 then surrogate value else char (Char.ofNat value)

/-- A text in which halves of pairs are replaced. -/
def string (text : List CodePoint) : String := String.ofList (text.map shown)

end CodePoint

end NumberingPlan.Text

import NumberingPlan.Text.Split

/-! Runs of characters whose names begin with the same words. Names are those of Unicode 14. -/

namespace NumberingPlan.Unicode

/-- Characters in a row, from `first` on: the words that all their names begin with, and how each
name ends. The endings are separated by semicolons. -/
structure NameRun where
  first : Nat
  stem : String
  endings : String
  deriving Repr

/-- The place of a name in a list of names separated by semicolons. -/
def placeIn? (names : String) (name : List Char) : Option Nat :=
  (Text.split ';' names.toList).findIdx? (· == name)

/-- The code point of the run's character that has the name. -/
def NameRun.find? (name : List Char) (run : NameRun) : Option Nat :=
  let stem := if run.stem.isEmpty then [] else run.stem.toList ++ [' ']
  if stem.isPrefixOf name then
    (placeIn? run.endings (name.drop stem.length)).map (run.first + ·)
  else none

end NumberingPlan.Unicode

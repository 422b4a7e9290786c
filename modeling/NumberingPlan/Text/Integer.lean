import NumberingPlan.Text.Blank
import NumberingPlan.Text.Decimal
import NumberingPlan.Unicode.Digit

/-! Whole numbers as people write them: blanks around, a sign, digits of any script, and single
underscores between digits. -/

namespace NumberingPlan.Integer

inductive Fault where
  | malformed
  | tooLong (digits : Nat)
  deriving DecidableEq, Repr

/-- A blank around a number: the four separators below the space do not count. -/
def isPadding (c : Char) : Bool :=
  Text.isBlank c && !(0x1c ≤ c.toNat && c.toNat ≤ 0x1f)

/-- The digit values at the beginning of a text such as `7` or `1_000`, and what follows them;
`none` where an underscore does not stand between two digits. -/
def digitRun : List Char → Option (List Nat × List Char)
  | [] => some ([], [])
  | [c] => some (match Unicode.digitValue? c with
    | some value => ([value], [])
    | none => ([], [c]))
  | c :: '_' :: rest =>
    match Unicode.digitValue? c with
    | some value =>
      match digitRun rest with
      | some (next :: values, rest) => some (value :: next :: values, rest)
      | _ => none
    | none => some ([], c :: '_' :: rest)
  | c :: next :: rest =>
    match Unicode.digitValue? c with
    | some value => (digitRun (next :: rest)).map (fun run => (value :: run.1, run.2))
    | none => some ([], c :: next :: rest)

/-- Too many digits are refused whatever follows them. -/
def magnitude (text : List Char) : Except Fault Nat :=
  match digitRun text with
  | none => .error .malformed
  | some (values, rest) =>
    if Decimal.maxDigits < values.length then .error (.tooLong values.length)
    else if values.isEmpty || !rest.isEmpty then .error .malformed
    else .ok (values.foldl (fun total value => 10 * total + value) 0)

def trim (text : List Char) : List Char :=
  ((text.dropWhile isPadding).reverse.dropWhile isPadding).reverse

def read (text : List Char) : Except Fault Int :=
  match trim text with
  | '-' :: digits => (magnitude digits).map (fun n => -Int.ofNat n)
  | '+' :: digits => (magnitude digits).map Int.ofNat
  | digits => (magnitude digits).map Int.ofNat

end NumberingPlan.Integer

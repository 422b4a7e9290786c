import NumberingPlan.Length.Set
import NumberingPlan.Text.Decimal
import NumberingPlan.Text.Split

/-! The length notation of a numbering plan, such as `4,[6-9],12`. A specification is a list of
tokens between commas; a token is a positive number or a range whose bounds differ by two or
more, and no length is given twice. A specification is read from left to right, so the fault
that is reported belongs to the shortest bad beginning. -/

namespace NumberingPlan.LengthSpec

inductive Fault where
  | emptyText
  | emptyToken
  | unclosedRange
  | rangeShape
  | badNumber (token : String)
  | zero
  | narrowRange
  | repeated (length : Int)
  | numeralTooLong (digits : Nat)
  deriving DecidableEq, Repr

def Fault.message : Fault → String
  | emptyText => "empty possible length string"
  | emptyToken => "leading, trailing or adjacent commas in possible length string"
  | unclosedRange => "missing end of range character in possible length string"
  | rangeShape => "ranges must have exactly one '-' character"
  | badNumber token => "invalid length token '" ++ token ++ "' in possible length string"
  | zero => "possible length must be positive, got 0"
  | narrowRange => "the first number in a range must be two or more lower than the second"
  | repeated length => "duplicate length element found (" ++ Decimal.text length ++ ")"
  | numeralTooLong digits => Decimal.tooLong digits

/-- The values that show the fault: the length that was given before. -/
def Fault.witness : Fault → Option (List String)
  | repeated length => some [Decimal.text length]
  | _ => none

/-- The lengths from `low` to `high`. -/
structure Span where
  low : Nat
  high : Nat
  deriving DecidableEq, Repr

namespace Span

def values (span : Span) : List Int :=
  (List.range' span.low (span.high + 1 - span.low)).map Int.ofNat

def holds (span : Span) (length : Int) : Bool :=
  decide (Int.ofNat span.low ≤ length) && decide (length ≤ Int.ofNat span.high)

theorem mem_values (span : Span) (length : Int) :
    length ∈ span.values ↔ span.holds length = true := by
  simp only [values, List.mem_map, List.mem_range'_1, holds, Bool.and_eq_true, decide_eq_true_eq]
  constructor
  · rintro ⟨n, bounds, rfl⟩
    simp only [Int.ofNat_eq_natCast]
    omega
  · rintro ⟨above, below⟩
    simp only [Int.ofNat_eq_natCast] at *
    exact ⟨length.toNat, by omega, by omega⟩

end Span

/-- A positive number in ASCII digits. -/
def readNumber (token : List Char) : Except Fault Nat :=
  if Decimal.isNumeral token then
    match Decimal.read token with
    | .ok 0 => .error .zero
    | .ok n => .ok n
    | .error digits => .error (.numeralTooLong digits)
  else
    .error (.badNumber (String.ofList token))

/-- What stands between the brackets of a range. -/
def readBounds (inner : List Char) : Except Fault Span :=
  match Text.split '-' inner with
  | [lowText, highText] => do
    let low ← readNumber lowText
    let high ← readNumber highText
    if low + 2 ≤ high then .ok ⟨low, high⟩ else .error .narrowRange
  | _ => .error .rangeShape

def readToken : List Char → Except Fault Span
  | [] => .error .emptyToken
  | '[' :: rest =>
    match rest.reverse with
    | ']' :: inner => readBounds inner.reverse
    | _ => .error .unclosedRange
  | token => do
    let n ← readNumber token
    .ok ⟨n, n⟩

/-- The least length of `span` that an earlier span holds. -/
def firstRepeat (earlier : List Span) (span : Span) : Option Int :=
  span.values.find? (fun length => earlier.any (·.holds length))

/-- Reads the tokens after those that gave the spans `earlier`. -/
def readTokens (earlier : List Span) : List (List Char) → Except Fault (List Span)
  | [] => .ok earlier
  | token :: rest => do
    let span ← readToken token
    match firstRepeat earlier span with
    | some length => .error (.repeated length)
    | none => readTokens (earlier ++ [span]) rest

def spans (text : List Char) : Except Fault (List Span) :=
  if text.isEmpty then .error .emptyText else readTokens [] (Text.split ',' text)

/-- The lengths that a specification stands for. -/
def parse (text : String) : Except Fault LengthSet := do
  let found ← spans text.toList
  .ok (LengthSet.ofList (found.flatMap Span.values))

end NumberingPlan.LengthSpec

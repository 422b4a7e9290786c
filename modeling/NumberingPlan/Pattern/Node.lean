import NumberingPlan.Pattern.Fault

/-! The shape of a regular expression, as far as its validity needs it: how many characters each
part can match, and which parts look behind or repeat. -/

namespace NumberingPlan.Pattern

/-- A repetition count stays below this, and it stands for a repetition without an end. -/
def maxRepeat : Nat := Nat.pow 2 32 - 1

/-- The least and the greatest number of characters that a part can match. Neither is counted
beyond its own bound, so the greatest one of an endless part is `maxRepeat`. -/
structure Width where
  low : Nat
  high : Nat
  deriving DecidableEq, Repr

namespace Width

def zero : Width := ⟨0, 0⟩

def one : Width := ⟨1, 1⟩

def clamp (width : Width) : Width := ⟨min width.low (maxRepeat - 1), min width.high maxRepeat⟩

def append (a b : Width) : Width := clamp ⟨a.low + b.low, a.high + b.high⟩

def either (a b : Width) : Width := ⟨min a.low b.low, max a.high b.high⟩

/-- The width of `low` to `high` copies; `none` is no upper bound. -/
def times (width : Width) (low : Nat) (high : Option Nat) : Width :=
  clamp ⟨width.low * low, width.high * high.getD maxRepeat⟩

end Width

inductive Node where
  | empty
  | character
  | anchor
  | reference (width : Width)
  | append (first second : Node)
  | either (first second : Node)
  | repeated (greed : Greed) (low : Nat) (high : Option Nat) (body : Node)
  | group (body : Node)
  | lookahead (body : Node)
  | lookbehind (body : Node)
  | conditional (yes no : Node)
  deriving Repr

namespace Node

def width : Node → Width
  | empty | anchor | lookahead _ | lookbehind _ => .zero
  | character => .one
  | reference width => width
  | append first second => first.width.append second.width
  | either first second => first.width.either second.width
  | repeated _ low high body => body.width.times low high
  | group body => body.width
  | conditional yes no => yes.width.either no.width

/-- What can only be told of the whole expression: a part that looks behind matches a fixed
number of characters, and no part repeats while `simple` is asked for. -/
def check (simple : Bool) : Node → Except Complaint Unit
  | empty | character | anchor | reference _ => .ok ()
  | append first second | either first second | conditional first second => do
    first.check simple
    second.check simple
  | repeated greed _ _ body =>
    if simple then .error (.repeatUnsupported greed) else body.check simple
  | group body | lookahead body => body.check simple
  | lookbehind body =>
    if body.width.low = body.width.high then body.check simple else .error .lookbehindVaries

/-- No part looks behind this many characters or more. -/
def maxLookbehind : Nat := Nat.pow 2 31

/-- Whether some part looks behind too many characters. -/
def looksTooFar : Node → Bool
  | empty | character | anchor | reference _ => false
  | append first second | either first second | conditional first second =>
    first.looksTooFar || second.looksTooFar
  | repeated _ _ _ body | group body | lookahead body => body.looksTooFar
  | lookbehind body => maxLookbehind ≤ body.width.low || body.looksTooFar

def ofList : List Node → Node
  | [] => empty
  | node :: rest => append node (ofList rest)

end Node

end NumberingPlan.Pattern

/-! Marks that steer a terminal: an escape character, an opening bracket, numbers between
semicolons, and a letter. A text that goes to no terminal is written without them. -/

namespace NumberingPlan.Text

def isMarkNumber (c : Char) : Bool := c.isDigit || c == ';' || c == '?'

/-- How many characters are left of a mark whose bracket has been read. -/
def markEnd? : List Char → Option Nat
  | [] => none
  | c :: rest =>
    if isMarkNumber c then (markEnd? rest).map (· + 1)
    else if c.isAlpha then some 1
    else none

/-- How many characters the mark has that begins with the escape character before the text. -/
def markLength? : List Char → Option Nat
  | '[' :: rest => (markEnd? rest).map (· + 1)
  | _ => none

/-- The text after its first `skip` characters, without marks. -/
def dropMarks : Nat → List Char → List Char
  | _, [] => []
  | skip + 1, _ :: rest => dropMarks skip rest
  | 0, c :: rest =>
    if c = '\x1b' then
      match markLength? rest with
      | some length => dropMarks length rest
      | none => c :: dropMarks 0 rest
    else c :: dropMarks 0 rest

def unmarked (text : String) : String := String.ofList (dropMarks 0 text.toList)

end NumberingPlan.Text

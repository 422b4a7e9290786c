import NumberingPlan.Text.Decimal
import NumberingPlan.Text.Quoted

/-! Why a regular expression is refused. A complaint is a finding about the expression, placed
where the reader stood; the other faults are bounds of the reader itself. -/

namespace NumberingPlan.Pattern

/-- How often a repeated part is tried first. -/
inductive Greed where
  | most
  | least
  | possessive
  deriving DecidableEq, Repr

def Greed.operatorName : Greed → String
  | most => "MAX_REPEAT"
  | least => "MIN_REPEAT"
  | possessive => "POSSESSIVE_REPEAT"

inductive Complaint where
  | danglingEscape
  | badEscape (text : String)
  | incompleteEscape (text : String)
  | octalTooLarge (text : String)
  | missingBrace
  | missingName (what : String)
  | unterminatedName (closing : Char)
  | undefinedCharacter (name : String)
  | badGroupName (name : String)
  | unknownGroupName (name : String)
  | badGroupNumber
  | invalidReference (group : Nat)
  | openGroup
  | sameLookbehind
  | redefinedName (name : String) (group earlier : Nat)
  | unterminatedSet
  | badRange (low high : String)
  | emptyRepeatRange
  | nothingToRepeat
  | multipleRepeat
  | unexpectedEnd
  | unknownExtension (text : String)
  | unterminatedComment
  | unterminatedGroup
  | extraBranch
  | lateGlobalFlags
  | localeFlag
  | incompatibleFlags
  | missingFlagEnd
  | unknownFlag
  | missingFlag
  | missingColon
  | textFlagOff
  | globalFlagOn
  | globalFlagOff
  | flagOnAndOff
  | unbalanced
  | lookbehindVaries
  | repeatUnsupported (greed : Greed)
  deriving DecidableEq, Repr

def Complaint.text : Complaint → String
  | danglingEscape => "bad escape (end of pattern)"
  | badEscape text => "bad escape " ++ text
  | incompleteEscape text => "incomplete escape " ++ text
  | octalTooLarge text => "octal escape value " ++ text ++ " outside of range 0-0o377"
  | missingBrace => "missing \x7b"
  | missingName what => "missing " ++ what
  | unterminatedName closing => "missing " ++ closing.toString ++ ", unterminated name"
  | undefinedCharacter name => "undefined character name " ++ Text.quote name
  | badGroupName name => "bad character in group name " ++ Text.quote name
  | unknownGroupName name => "unknown group name " ++ Text.quote name
  | badGroupNumber => "bad group number"
  | invalidReference group => "invalid group reference " ++ Decimal.text group
  | openGroup => "cannot refer to an open group"
  | sameLookbehind => "cannot refer to group defined in the same lookbehind subpattern"
  | redefinedName name group earlier =>
    "redefinition of group name " ++ Text.quote name ++ " as group " ++ Decimal.text group
      ++ "; was group " ++ Decimal.text earlier
  | unterminatedSet => "unterminated character set"
  | badRange low high => "bad character range " ++ low ++ "-" ++ high
  | emptyRepeatRange => "min repeat greater than max repeat"
  | nothingToRepeat => "nothing to repeat"
  | multipleRepeat => "multiple repeat"
  | unexpectedEnd => "unexpected end of pattern"
  | unknownExtension text => "unknown extension ?" ++ text
  | unterminatedComment => "missing ), unterminated comment"
  | unterminatedGroup => "missing ), unterminated subpattern"
  | extraBranch => "conditional backref with more than two branches"
  | lateGlobalFlags => "global flags not at the start of the expression"
  | localeFlag => "bad inline flags: cannot use 'L' flag with a str pattern"
  | incompatibleFlags => "bad inline flags: flags 'a', 'u' and 'L' are incompatible"
  | missingFlagEnd => "missing -, : or )"
  | unknownFlag => "unknown flag"
  | missingFlag => "missing flag"
  | missingColon => "missing :"
  | textFlagOff => "bad inline flags: cannot turn off flags 'a', 'u' and 'L'"
  | globalFlagOn => "bad inline flags: cannot turn on global flag"
  | globalFlagOff => "bad inline flags: cannot turn off global flag"
  | flagOnAndOff => "bad inline flags: flag turned on and off"
  | unbalanced => "unbalanced parenthesis"
  | lookbehindVaries => "look-behind requires fixed-width pattern"
  | repeatUnsupported greed =>
    "internal: unsupported template operator " ++ greed.operatorName

inductive Fault where
  | malformed (complaint : Complaint) (position : Option Nat)
  | numeralTooLong (digits : Nat)
  | repeatTooLarge
  | codePointTooLarge
  | lookbehindTooLong
  | flagsClash
  deriving DecidableEq, Repr

/-- The line and the column of a position, both counted from one. -/
def lineAndColumn (pattern : List Char) (position : Nat) : Nat × Nat :=
  let before := pattern.take position
  (before.count '\n' + 1, (before.reverse.takeWhile (· != '\n')).length + 1)

/-- The complaint with its place; line and column are told only of patterns with several lines. -/
def Complaint.located (complaint : Complaint) (position : Option Nat) (pattern : List Char) :
    String :=
  match position with
  | none => complaint.text
  | some place =>
    let words := complaint.text ++ " at position " ++ Decimal.text place
    if pattern.contains '\n' then
      let (line, column) := lineAndColumn pattern place
      words ++ " (line " ++ Decimal.text line ++ ", column " ++ Decimal.text column ++ ")"
    else words

end NumberingPlan.Pattern

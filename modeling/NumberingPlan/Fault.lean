import NumberingPlan.Length.Pair
import NumberingPlan.Length.Spec
import NumberingPlan.Reader
import NumberingPlan.Rejection
import NumberingPlan.Text.Blank
import NumberingPlan.Text.Utf8

/-! How a step of the compiler can fail. A rejection is a finding about the document. The other
faults are limits of the readers that the compiler stands on, or a breach of a value's
invariant by its maker; no territory is named in them. -/

namespace NumberingPlan

inductive Limit where
  | numeralTooLong (digits : Nat)
  | pattern (stop : Stop)
  | document (stop : Stop)
  | settings (stop : Stop)
  | lengths (fault : LengthPair.Fault)
  | noWorkers
  | countryCodeKind
  | undecodable (fault : Text.Utf8.Fault)
  | nulInPath
  deriving DecidableEq, Repr

def Limit.message : Limit → String
  | numeralTooLong digits => Decimal.tooLong digits
  | pattern stop | document stop | settings stop => stop.words
  | lengths fault => fault.message
  | noWorkers => "max_workers must be >= 1"
  | countryCodeKind => "country_code must be an integer"
  | undecodable fault => fault.message
  | nulInPath => "embedded null byte"

inductive Fault where
  | rejected (rejection : Rejection)
  | limit (limit : Limit)
  deriving DecidableEq, Repr

def LengthSpec.Fault.toFault (text : String) : LengthSpec.Fault → NumberingPlan.Fault
  | .numeralTooLong digits => .limit (.numeralTooLong digits)
  | fault => .rejected
      { code := .lengthSpecMalformed, message := fault.message, input := text,
        witness := fault.witness }

def readLengths (text : String) : Except Fault LengthSet :=
  (LengthSpec.parse text).mapError (LengthSpec.Fault.toFault text)

/-- A reader of regular expressions: whether it takes a text for one. -/
class PatternReader where
  check : String → Except ReaderFault Unit

def patternFault (text : String) : ReaderFault → Fault
  | .malformed words => .rejected
      { code := .patternInvalid, input := text, message := "invalid regular expression: " ++ words }
  | .stopped stop => .limit (.pattern stop)

section Patterns

variable [PatternReader]

def validPattern (text : String) : Except Fault String :=
  ((PatternReader.check text).map (fun _ => text)).mapError (patternFault text)

/-- The text without its blanks if that is a regular expression. -/
def validCompactPattern (text : String) : Except Fault String :=
  validPattern (String.ofList (Text.dropBlanks text.toList))

end Patterns

end NumberingPlan

import NumberingPlan.Command.Words
import NumberingPlan.Document
import NumberingPlan.Pattern.Reader
import NumberingPlan.Settings
import NumberingPlan.Xml.Reader
import NumberingPlan.Yaml.Value

/-! The readers that the program runs with. What stops one of them has a kind: a number is too
large, a name is not known, a text has no value. They stop at no depth of nesting. A reader that
does, or that lets a pattern look further behind, or that words its complaints in several lines, is
another instance, and what holds of the compiler holds with it too. -/

namespace NumberingPlan

def Pattern.Fault.toReader (text : String) : Pattern.Fault → ReaderFault
  | .malformed complaint position => .malformed (complaint.located position text.toList)
  | .numeralTooLong digits => .stopped ⟨"ValueError", Decimal.tooLong digits⟩
  | .repeatTooLarge => .stopped ⟨"OverflowError", "the repetition number is too large"⟩
  | .codePointTooLarge => .stopped ⟨"OverflowError", "Python int too large to convert to C int"⟩
  | .lookbehindTooLong => .stopped ⟨"RuntimeError", "invalid SRE code"⟩
  | .flagsClash => .stopped ⟨"ValueError", "ASCII and UNICODE flags are incompatible"⟩

/-- The kind of what stops the reader of documents: an encoding that it cannot read in. -/
def Xml.Fault.kind? : Xml.Fault → Option String
  | .unsupportedEncoding _ | .binaryEncoding _ => some "LookupError"
  | .multibyteEncoding => some "ValueError"
  | .unusableEncoding _ .punycode => some "UnicodeDecodeError"
  | .unusableEncoding _ _ => some "UnicodeError"
  | _ => none

def Xml.Located.toReader (located : Xml.Located) : ReaderFault :=
  match located.fault.kind? with
  | none => .malformed located.words
  | some kind => .stopped ⟨kind, located.fault.words⟩

namespace Yaml

def ValueFault.kind : ValueFault → String
  | .codePointTooLarge | .tooManySixtieths => "OverflowError"
  | .emptyNumber => "IndexError"
  | .notBool _ => "KeyError"
  | .notTime => "AttributeError"
  | .timeOfMapping => "TypeError"
  | .endless => "RecursionError"
  | _ => "ValueError"

def Fault.toReader : Fault → ReaderFault
  | .malformed complaint => .malformed complaint.text
  | .value fault => .stopped ⟨fault.kind, fault.message⟩

end Yaml

namespace Standard

scoped instance patterns : PatternReader where
  check text := (Pattern.check text.toList).mapError (Pattern.Fault.toReader text)

scoped instance documents : DocumentReader where
  ofBytes bytes := (Xml.parse false bytes).mapError Xml.Located.toReader
  ofText text := (Xml.parse true text.toUTF8.toList).mapError Xml.Located.toReader

scoped instance settings : SettingsReader where
  load text := (Yaml.load text).mapError Yaml.Fault.toReader

scoped instance commands : CommandReader where
  read words := (Command.readWords words).mapError Command.Misuse.message

end Standard

end NumberingPlan

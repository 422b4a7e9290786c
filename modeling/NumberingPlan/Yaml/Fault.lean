import NumberingPlan.Text.Decimal
import NumberingPlan.Text.Quoted

/-! Why a YAML text cannot be read. A text may be malformed, or it may be well formed and hold a
scalar that its tag has no value for. -/

namespace NumberingPlan.Yaml

open Text (CodePoint)

/-- Reasons why a text is malformed. -/
inductive Complaint where
  | unprintable
  | token
  | keyWithoutColon
  | sequenceEntry
  | mappingKey
  | mappingValue
  | directive
  | version
  | anchorName
  | tag
  | tagHandle
  | blockHeader
  | quoteUnclosed
  | documentInQuote
  | escape
  | content
  | flowEnd
  | blockEnd
  | documentStart
  | severalDocuments
  | unknownAlias
  | repeatedAnchor
  | unknownTag
  | kindMismatch
  | collectionAsKey
  | mergeSource
  deriving DecidableEq, Repr

def Complaint.text : Complaint → String
  | unprintable => "special characters are not allowed"
  | token => "found character that cannot start any token"
  | keyWithoutColon => "could not find expected ':'"
  | sequenceEntry => "sequence entries are not allowed here"
  | mappingKey => "mapping keys are not allowed here"
  | mappingValue => "mapping values are not allowed here"
  | directive => "malformed directive"
  | version => "unsupported or repeated version"
  | anchorName => "expected an anchor of letters and digits"
  | tag => "malformed tag"
  | tagHandle => "repeated or undefined tag handle"
  | blockHeader => "malformed head of a block scalar"
  | quoteUnclosed => "found unexpected end of stream in a quoted scalar"
  | documentInQuote => "found unexpected document separator in a quoted scalar"
  | escape => "found unknown escape character"
  | content => "expected the node content"
  | flowEnd => "expected ',' or the end of the collection"
  | blockEnd => "expected the end of the block"
  | documentStart => "expected the start of a document"
  | severalDocuments => "expected a single document"
  | unknownAlias => "found undefined alias"
  | repeatedAnchor => "found duplicate anchor"
  | unknownTag => "could not determine a value for the tag"
  | kindMismatch => "found a node of another kind than its tag says"
  | collectionAsKey => "found unhashable key"
  | mergeSource => "expected a mapping or list of mappings for merging"

/-- Reasons why a scalar has no value. -/
inductive ValueFault where
  | notInteger (text : List CodePoint) (base : Nat)
  | numeralTooLong (digits : Nat)
  | emptyNumber
  | notDecimal (text : List CodePoint)
  | notBool (text : List CodePoint)
  | notTime
  | timeOfMapping
  | tooManySixtieths
  | endless
  | year
  | month
  | day
  | hour
  | minute
  | second
  | zone (days seconds : Int)
  | codePoint
  | codePointTooLarge
  deriving DecidableEq, Repr

/-- A span of time by its days and the seconds beyond them. -/
def spanText (days seconds : Int) : String :=
  let parts := (if days = 0 then [] else ["days=" ++ Decimal.text days])
    ++ (if seconds = 0 then [] else ["seconds=" ++ Decimal.text seconds])
  "datetime.timedelta(" ++ ", ".intercalate parts ++ ")"

def ValueFault.message : ValueFault → String
  | notInteger text base =>
    "invalid literal for int() with base " ++ Decimal.text base ++ ": "
      ++ Text.quoteWithin 200 text
  | numeralTooLong digits => Decimal.tooLong digits
  | emptyNumber => "string index out of range"
  | notDecimal text => "could not convert string to float: " ++ String.ofList (Text.quoted text)
  | notBool text => String.ofList (Text.quoted text)
  | notTime => "'NoneType' object has no attribute 'groupdict'"
  | timeOfMapping => "expected string or bytes-like object, got 'list'"
  | tooManySixtieths => "int too large to convert to float"
  | endless => "maximum recursion depth exceeded"
  | year => "year 0 is out of range"
  | month => "month must be in 1..12"
  | day => "day is out of range for month"
  | hour => "hour must be in 0..23"
  | minute => "minute must be in 0..59"
  | second => "second must be in 0..59"
  | zone days seconds =>
    "offset must be a timedelta strictly between -timedelta(hours=24) and timedelta(hours=24), not "
      ++ spanText days seconds ++ "."
  | codePoint => "chr() arg not in range(0x110000)"
  | codePointTooLarge => "Python int too large to convert to C int"

inductive Fault where
  | malformed (complaint : Complaint)
  | value (fault : ValueFault)
  deriving DecidableEq, Repr

end NumberingPlan.Yaml

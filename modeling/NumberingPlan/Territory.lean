import NumberingPlan.Descriptor
import NumberingPlan.Format
import NumberingPlan.Json
import NumberingPlan.NumberType

/-! One territory's record: its calling code, prefixes, formats and descriptions. A record is
resolved as a whole or rejected as a whole, and a rejection names the territory. -/

namespace NumberingPlan

open Xml (Element)

structure Territory where
  id : String
  countryCode : Int
  general : Descriptor := {}
  typed : NumberType → Option Descriptor := fun _ => none
  internationalPrefix : Option String := none
  preferredInternationalPrefix : Option String := none
  nationalPrefix : Option String := none
  preferredExtnPrefix : Option String := none
  nationalPrefixForParsing : Option String := none
  nationalPrefixTransformRule : Option String := none
  sameMobileAndFixedLine : Bool := false
  formats : List FormatRule := []
  internationalFormats : List FormatRule := []
  mainCountryForCode : Bool := false
  leadingDigits : Option String := none
  leadingZeroPossible : Bool := false

namespace Territory

def numberTypes (territory : Territory) : List (NumberType × Descriptor) :=
  NumberType.all.filterMap (fun kind => (territory.typed kind).map (kind, ·))

end Territory

def readCountryCode (text : String) : Except Fault Int :=
  if Decimal.isNumeral text.toList then
    match Decimal.read text.toList with
    | .ok code => .ok code
    | .error digits => .error (.limit (.numeralTooLong digits))
  else
    .error (.rejected
      { code := .countryCodeInvalid, input := text,
        message := "country calling code must be a decimal integer" })

/-- A calling code that is given as a value: an integer and nothing that stands for one. -/
def countryCodeOf : Json → Except Fault Int
  | .int code => .ok code
  | _ => .error (.limit .countryCodeKind)

/-- The two patterns that rewrite a national number when it is read. A transform rule without its
prefix has no meaning and is passed over. -/
def parsingRules [PatternReader] (element : Element) : Except Fault
    (Option String × Option String) := do
  match element.value? Vocabulary.nationalPrefixForParsing with
  | none => .ok (none, none)
  | some text =>
    let forParsing ← validCompactPattern text
    let transform ← (element.value? Vocabulary.nationalPrefixTransformRule).mapM validPattern
    .ok (some forParsing, transform)

def territoryAttributes [PatternReader] (id : String) (element : Element) :
    Except Fault Territory := do
  let (forParsing, transform) ← parsingRules element
  let nationalPrefix := nonempty? (element.value Vocabulary.nationalPrefix)
  let countryCode ← readCountryCode (element.value Vocabulary.countryCode)
  let leadingDigits ← (element.value? Vocabulary.leadingDigits).mapM validPattern
  let internationalPrefix ← (element.value? Vocabulary.internationalPrefix).mapM validPattern
  .ok
    { id
      countryCode
      leadingDigits
      internationalPrefix
      preferredInternationalPrefix := element.value? Vocabulary.preferredInternationalPrefix
      nationalPrefix
      preferredExtnPrefix := element.value? Vocabulary.preferredExtnPrefix
      nationalPrefixForParsing := forParsing <|> nationalPrefix
      nationalPrefixTransformRule := transform
      mainCountryForCode := element.has Vocabulary.mainCountryForCode
      leadingZeroPossible := element.has Vocabulary.leadingZeroPossible }

structure Variant where
  isShortNumber : Bool := false
  isAlternateFormats : Bool := false
  deriving DecidableEq, Repr

/-- The typed descriptions of a record, in the order in which they are resolved; records of
alternate formats have none. -/
def typedDescs [PatternReader] (element : Element) (general : Descriptor) (variant : Variant) :
    Except Fault (List (NumberType × Descriptor)) :=
  if variant.isAlternateFormats then .ok []
  else (NumberType.resolved variant.isShortNumber).mapM (fun kind => do
    .ok (kind, ← numberDesc element kind.tag general))

def Territory.withParts (base : Territory) (rules : FormatRules) (general : Descriptor)
    (types : List (NumberType × Descriptor)) (variant : Variant) : Territory :=
  let patternOf (kind : NumberType) : Option String := (types.lookup kind).bind (·.pattern)
  { base with
    general
    typed := fun kind => types.lookup kind
    formats := rules.national
    internationalFormats := rules.international
    sameMobileAndFixedLine :=
      !variant.isAlternateFormats && !variant.isShortNumber
        && patternOf .mobile == patternOf .fixedLine }

def resolveTerritory [PatternReader] (id : String) (element : Element) (variant : Variant) :
    Except Fault Territory := do
  let base ← territoryAttributes id element
  let rules ← numberFormats element (formatDefaults element)
  let general ← generalDesc element variant.isShortNumber
  let types ← typedDescs element general variant
  .ok (base.withParts rules general types variant)

/-- How a record is called in messages: by its region, else by its calling code. -/
def territoryLabel (id : String) (element : Element) : String :=
  if !id.isEmpty then id
  else
    let code := element.value Vocabulary.countryCode
    if code.isEmpty then "<unknown>" else code

/-- Names the territory in a rejection; the other faults name none. -/
def Fault.inTerritory (label : String) : Fault → Fault
  | .rejected rejection => .rejected (rejection.withTerritory label)
  | .limit bound => .limit bound

def compileTerritory [PatternReader] (id : String) (element : Element) (variant : Variant) :
    Except Fault Territory :=
  (resolveTerritory id element variant).mapError (Fault.inTerritory (territoryLabel id element))

end NumberingPlan

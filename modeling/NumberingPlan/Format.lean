import NumberingPlan.Fault
import NumberingPlan.Text.Replace
import NumberingPlan.Vocabulary
import NumberingPlan.Xml.Node

/-! How numbers are written. A format inherits the prefix and carrier rules of its territory; the
international formats of a territory count only if one of them is given explicitly. -/

namespace NumberingPlan

open Xml (Element)

/-- What every format of a territory inherits. -/
structure FormatDefaults where
  nationalPrefix : String := ""
  prefixRule : Option String := none
  prefixOptional : Bool := false
  carrierRule : Option String := none
  deriving DecidableEq, Repr

structure FormatRule where
  pattern : String
  format : String
  leadingDigits : List String := []
  prefixRule : Option String := none
  prefixOptional : Bool := false
  carrierRule : Option String := none
  deriving DecidableEq, Repr

structure FormatRules where
  national : List FormatRule
  international : List FormatRule
  deriving DecidableEq, Repr

def replaceFirst (text token replacement : String) : String :=
  String.ofList (Text.replaceFirst token.toList replacement.toList text.toList)

def nonempty? (text : String) : Option String := if text.isEmpty then none else some text

/-- A prefix rule: the prefix is filled in first, then the first group. -/
def prefixRuleOf (element : Element) (nationalPrefix : String) : Option String :=
  let rule := element.value Vocabulary.nationalPrefixFormattingRule
  let rule := replaceFirst rule Vocabulary.nationalPrefixToken nationalPrefix
  nonempty? (replaceFirst rule Vocabulary.firstGroupToken Vocabulary.firstGroup)

/-- A carrier rule: the first group is filled in first, then the prefix. -/
def carrierRuleOf (element : Element) (nationalPrefix : String) : Option String :=
  let rule := element.value Vocabulary.carrierCodeFormattingRule
  let rule := replaceFirst rule Vocabulary.firstGroupToken Vocabulary.firstGroup
  nonempty? (replaceFirst rule Vocabulary.nationalPrefixToken nationalPrefix)

def formatDefaults (territory : Element) : FormatDefaults :=
  let nationalPrefix := territory.value Vocabulary.nationalPrefix
  { nationalPrefix
    prefixRule := prefixRuleOf territory nationalPrefix
    prefixOptional := territory.has Vocabulary.nationalPrefixOptionalWhenFormatting
    carrierRule := carrierRuleOf territory nationalPrefix }

/-- A format's own prefix rule, which then decides alone whether the prefix is optional, or the
inherited one. -/
def prefixRuleFor (element : Element) (defaults : FormatDefaults) : Option String × Bool :=
  if element.has Vocabulary.nationalPrefixFormattingRule then
    (prefixRuleOf element defaults.nationalPrefix,
      element.has Vocabulary.nationalPrefixOptionalWhenFormatting)
  else (defaults.prefixRule, defaults.prefixOptional)

def carrierRuleFor (element : Element) (defaults : FormatDefaults) : Option String :=
  if element.has Vocabulary.carrierCodeFormattingRule then
    carrierRuleOf element defaults.nationalPrefix
  else defaults.carrierRule

def singleFormat (element : Element) (pattern : String) : Except Fault String :=
  match element.findAll Vocabulary.format with
  | [template] => .ok template.text
  | others => .error (.rejected
      { code := .formatCount, input := pattern,
        message := "expected exactly one format pattern per numberFormat, found "
          ++ Decimal.text others.length,
        witness := some [Decimal.text others.length] })

def nationalFormat [PatternReader] (element : Element) (defaults : FormatDefaults) :
    Except Fault FormatRule := do
  let pattern ← validPattern (element.value Vocabulary.pattern)
  let format ← singleFormat element pattern
  let leadingDigits ← (element.findAll Vocabulary.leadingDigits).mapM
    (fun node => validCompactPattern node.text)
  let (prefixRule, prefixOptional) := prefixRuleFor element defaults
  .ok { pattern, format, leadingDigits, prefixRule, prefixOptional,
        carrierRule := carrierRuleFor element defaults }

/-- The international rule beside a national one, if there is one, and whether it was given
explicitly. -/
def internationalFormat (element : Element) (national : FormatRule) :
    Except Fault (Option FormatRule × Bool) :=
  let rule (template : String) : FormatRule :=
    { pattern := national.pattern, format := template, leadingDigits := national.leadingDigits }
  match element.findAll Vocabulary.intlFormat with
  | [] => .ok (some (rule national.format), false)
  | [given] =>
    if given.text = Vocabulary.notApplicable then .ok (none, true)
    else .ok (some (rule given.text), true)
  | several => .error (.rejected
      { code := .intlFormatDuplicate, input := national.pattern,
        message := "a maximum of one intlFormat pattern for a numberFormat element is allowed",
        witness := some [Decimal.text several.length] })

def formatPair [PatternReader] (defaults : FormatDefaults) (element : Element) :
    Except Fault (FormatRule × Option FormatRule × Bool) := do
  let national ← nationalFormat element defaults
  let (international, explicit) ← internationalFormat element national
  .ok (national, international, explicit)

def numberFormats [PatternReader] (territory : Element) (defaults : FormatDefaults) :
    Except Fault FormatRules := do
  let pairs ← (territory.findAll Vocabulary.numberFormat).mapM (formatPair defaults)
  let anyExplicit := pairs.any (fun pair => pair.2.2)
  .ok { national := pairs.map (·.1)
        international := if anyExplicit then pairs.filterMap (fun pair => pair.2.1) else [] }

end NumberingPlan

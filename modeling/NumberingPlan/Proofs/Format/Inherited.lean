import NumberingPlan.Format
import NumberingPlan.Proofs.Fallible
import NumberingPlan.Proofs.Xml.Descent
import NumberingPlan.Proofs.Xml.Reattributed

/-! What formats inherit. A rule of the territory makes of its formats what the same rule makes of
them when it is written on every format that has none of its own: it is filled in with the same
prefix, once for all or for each. The mark of an optional prefix goes with the prefix rule. -/

namespace NumberingPlan

open Fallible
open Xml (Element AttributeChange assign)

/-- The territory's prefix rule on every format that has none, beside the mark of an optional prefix
just if the territory has the mark. -/
def prefixRuleChange (territory : Element) : AttributeChange := fun tag attributes =>
  if tag = Vocabulary.numberFormat ∧
      attributes.lookup Vocabulary.nationalPrefixFormattingRule = none then
    assign Vocabulary.nationalPrefixFormattingRule
      (territory.value? Vocabulary.nationalPrefixFormattingRule)
      (assign Vocabulary.nationalPrefixOptionalWhenFormatting
        (territory.value? Vocabulary.nationalPrefixOptionalWhenFormatting) attributes)
  else attributes

/-- The territory's carrier rule on every format that has none. -/
def carrierRuleChange (territory : Element) : AttributeChange := fun tag attributes =>
  if tag = Vocabulary.numberFormat ∧
      attributes.lookup Vocabulary.carrierCodeFormattingRule = none then
    assign Vocabulary.carrierCodeFormattingRule
      (territory.value? Vocabulary.carrierCodeFormattingRule) attributes
  else attributes

def withPrefixRuleWritten (territory : Element) : Element :=
  territory.reattributedInside (prefixRuleChange territory)

def withCarrierRuleWritten (territory : Element) : Element :=
  territory.reattributedInside (carrierRuleChange territory)

section Texts

variable (change : AttributeChange) (element : Element)

theorem singleFormat_reattributed (pattern : String) :
    singleFormat (element.reattributed change) pattern = singleFormat element pattern := by
  unfold singleFormat
  rw [Element.findAll_reattributed]
  match element.findAll Vocabulary.format with
  | [] => rfl
  | [template] => simp
  | _ :: _ :: _ => simp

theorem internationalFormat_reattributed (national : FormatRule) :
    internationalFormat (element.reattributed change) national =
      internationalFormat element national := by
  unfold internationalFormat
  rw [Element.findAll_reattributed]
  match element.findAll Vocabulary.intlFormat with
  | [] => rfl
  | [given] => simp
  | _ :: _ :: _ => simp

/-- Only the pattern and the two rules of a format are read off its attributes. -/
structure SameRules (defaults : FormatDefaults) (a b : Element) : Prop where
  pattern : a.value Vocabulary.pattern = b.value Vocabulary.pattern
  prefixRule : prefixRuleFor a defaults = prefixRuleFor b defaults
  carrierRule : carrierRuleFor a defaults = carrierRuleFor b defaults

variable [PatternReader] {change element}

theorem formatPair_reattributed {defaults : FormatDefaults}
    (same : SameRules defaults (element.reattributed change) element) :
    formatPair defaults (element.reattributed change) = formatPair defaults element := by
  have digits : ((element.reattributed change).findAll Vocabulary.leadingDigits).mapM
        (fun node => validCompactPattern node.text) =
      (element.findAll Vocabulary.leadingDigits).mapM
        (fun node => validCompactPattern node.text) := by
    rw [Element.findAll_reattributed, List.mapM_map]
    exact mapM_congr fun node _ => by rw [Function.comp_apply, Element.text_reattributed]
  simp only [formatPair, nationalFormat, same.pattern, same.prefixRule, same.carrierRule, digits,
    singleFormat_reattributed, internationalFormat_reattributed]

theorem numberFormats_reattributedInside {defaults : FormatDefaults}
    (same : ∀ element : Element, element.tag = Vocabulary.numberFormat →
      SameRules defaults (element.reattributed change) element) (territory : Element) :
    numberFormats (territory.reattributedInside change) defaults =
      numberFormats territory defaults := by
  have pairs : ((territory.reattributedInside change).findAll Vocabulary.numberFormat).mapM
      (formatPair defaults) =
        (territory.findAll Vocabulary.numberFormat).mapM (formatPair defaults) := by
    rw [Element.findAll_reattributedInside, List.mapM_map]
    refine mapM_congr fun element found => formatPair_reattributed (same element ?_)
    exact (Element.mem_findAll.1 found).2.resolve_left (by decide)
  rw [numberFormats, numberFormats, pairs]

end Texts

section Rules

variable {a b : Element}

theorem has_eq_of_value? {name : String} (same : a.value? name = b.value? name) :
    a.has name = b.has name := by
  rw [Element.has, Element.has, same]

theorem prefixRuleOf_eq
    (same : a.value? Vocabulary.nationalPrefixFormattingRule =
      b.value? Vocabulary.nationalPrefixFormattingRule) (nationalPrefix : String) :
    prefixRuleOf a nationalPrefix = prefixRuleOf b nationalPrefix := by
  simp only [prefixRuleOf, Element.value, same]

theorem carrierRuleOf_eq
    (same : a.value? Vocabulary.carrierCodeFormattingRule =
      b.value? Vocabulary.carrierCodeFormattingRule) (nationalPrefix : String) :
    carrierRuleOf a nationalPrefix = carrierRuleOf b nationalPrefix := by
  simp only [carrierRuleOf, Element.value, same]

theorem prefixRuleFor_eq
    (rule : a.value? Vocabulary.nationalPrefixFormattingRule =
      b.value? Vocabulary.nationalPrefixFormattingRule)
    (optional : a.value? Vocabulary.nationalPrefixOptionalWhenFormatting =
      b.value? Vocabulary.nationalPrefixOptionalWhenFormatting) (defaults : FormatDefaults) :
    prefixRuleFor a defaults = prefixRuleFor b defaults := by
  rw [prefixRuleFor, prefixRuleFor, has_eq_of_value? rule, has_eq_of_value? optional,
    prefixRuleOf_eq rule]

theorem carrierRuleFor_eq
    (rule : a.value? Vocabulary.carrierCodeFormattingRule =
      b.value? Vocabulary.carrierCodeFormattingRule) (defaults : FormatDefaults) :
    carrierRuleFor a defaults = carrierRuleFor b defaults := by
  rw [carrierRuleFor, carrierRuleFor, has_eq_of_value? rule, carrierRuleOf_eq rule]

end Rules

section Written

variable (territory : Element) {element written : Element}

/-- The rule of a territory is that of a format with the same attributes, and so is what comes of it
for a format that has none. -/
theorem prefixRuleFor_written
    (rule : written.value? Vocabulary.nationalPrefixFormattingRule =
      territory.value? Vocabulary.nationalPrefixFormattingRule)
    (optional : written.value? Vocabulary.nationalPrefixOptionalWhenFormatting =
      territory.value? Vocabulary.nationalPrefixOptionalWhenFormatting) :
    prefixRuleFor written (formatDefaults territory) =
      ((formatDefaults territory).prefixRule, (formatDefaults territory).prefixOptional) := by
  rw [prefixRuleFor]
  split
  · simp only [prefixRuleOf_eq rule, has_eq_of_value? optional, formatDefaults]
  · rfl

theorem prefixRuleFor_inherited (defaults : FormatDefaults)
    (bare : element.value? Vocabulary.nationalPrefixFormattingRule = none) :
    prefixRuleFor element defaults = (defaults.prefixRule, defaults.prefixOptional) := by
  simp [prefixRuleFor, Element.has, bare]

theorem carrierRuleFor_written
    (rule : written.value? Vocabulary.carrierCodeFormattingRule =
      territory.value? Vocabulary.carrierCodeFormattingRule) :
    carrierRuleFor written (formatDefaults territory) = (formatDefaults territory).carrierRule := by
  rw [carrierRuleFor]
  split
  · simp only [carrierRuleOf_eq rule, formatDefaults]
  · rfl

theorem carrierRuleFor_inherited (defaults : FormatDefaults)
    (bare : element.value? Vocabulary.carrierCodeFormattingRule = none) :
    carrierRuleFor element defaults = defaults.carrierRule := by
  simp [carrierRuleFor, Element.has, bare]

/-- Attributes that are as they were give the same rules. -/
theorem SameRules.of_values (defaults : FormatDefaults)
    (values : ∀ name, written.value? name = element.value? name) :
    SameRules defaults written element where
  pattern := by rw [Element.value, Element.value, values]
  prefixRule := prefixRuleFor_eq (values _) (values _) defaults
  carrierRule := carrierRuleFor_eq (values _) defaults

theorem prefixRuleChange_same (format : element.tag = Vocabulary.numberFormat) :
    SameRules (formatDefaults territory) (element.reattributed (prefixRuleChange territory))
      element := by
  by_cases bare : element.value? Vocabulary.nationalPrefixFormattingRule = none
  · have values (name : String) :
        (element.reattributed (prefixRuleChange territory)).value? name =
          if name = Vocabulary.nationalPrefixFormattingRule then
            territory.value? Vocabulary.nationalPrefixFormattingRule
          else if name = Vocabulary.nationalPrefixOptionalWhenFormatting then
            territory.value? Vocabulary.nationalPrefixOptionalWhenFormatting
          else element.value? name := by
      rw [Element.value?_reattributed, prefixRuleChange, if_pos ⟨format, bare⟩, Xml.lookup_assign,
        Xml.lookup_assign]
      rfl
    constructor
    case pattern =>
      rw [Element.value, Element.value, values, if_neg (by decide), if_neg (by decide)]
    case prefixRule =>
      rw [prefixRuleFor_inherited _ bare]
      exact prefixRuleFor_written territory (values _) (values _)
    case carrierRule => exact carrierRuleFor_eq (values _) _
  · refine .of_values _ fun name => ?_
    rw [Element.value?_reattributed, prefixRuleChange, if_neg fun both => bare both.2]
    rfl

theorem carrierRuleChange_same (format : element.tag = Vocabulary.numberFormat) :
    SameRules (formatDefaults territory) (element.reattributed (carrierRuleChange territory))
      element := by
  by_cases bare : element.value? Vocabulary.carrierCodeFormattingRule = none
  · have values (name : String) :
        (element.reattributed (carrierRuleChange territory)).value? name =
          if name = Vocabulary.carrierCodeFormattingRule then
            territory.value? Vocabulary.carrierCodeFormattingRule
          else element.value? name := by
      rw [Element.value?_reattributed, carrierRuleChange, if_pos ⟨format, bare⟩, Xml.lookup_assign]
      rfl
    constructor
    case pattern => rw [Element.value, Element.value, values, if_neg (by decide)]
    case prefixRule => exact prefixRuleFor_eq (values _) (values _) _
    case carrierRule =>
      rw [carrierRuleFor_inherited _ bare]
      exact carrierRuleFor_written territory (values _)
  · refine .of_values _ fun name => ?_
    rw [Element.value?_reattributed, carrierRuleChange, if_neg fun both => bare both.2]
    rfl

end Written

/-- Writing a territory's rules on the formats that have none, either rule or both, changes nothing:
the same rules are made, or the same fault is told. -/
theorem numberFormats_written [PatternReader] (territory : Element) :
    numberFormats (withPrefixRuleWritten territory) (formatDefaults territory) =
        numberFormats territory (formatDefaults territory) ∧
      numberFormats (withCarrierRuleWritten territory) (formatDefaults territory) =
        numberFormats territory (formatDefaults territory) ∧
      numberFormats (withCarrierRuleWritten (withPrefixRuleWritten territory))
          (formatDefaults territory) =
        numberFormats territory (formatDefaults territory) := by
  have prefixWritten : numberFormats (withPrefixRuleWritten territory) (formatDefaults territory) =
      numberFormats territory (formatDefaults territory) :=
    numberFormats_reattributedInside (fun _ format => prefixRuleChange_same territory format)
      territory
  -- The carrier rule may be written on formats that have been given a prefix rule before.
  have carrierWritten (other : Element) :
      numberFormats (other.reattributedInside (carrierRuleChange territory))
        (formatDefaults territory) = numberFormats other (formatDefaults territory) :=
    numberFormats_reattributedInside (fun _ format => carrierRuleChange_same territory format) other
  exact ⟨prefixWritten, carrierWritten territory,
    (carrierWritten (withPrefixRuleWritten territory)).trans prefixWritten⟩

/-- Two formats of a territory with an optional prefix: one inherits, and one has an empty rule. -/
def halfRuled : Element :=
  ⟨"territory", [("nationalPrefixFormattingRule", "($NP$FG)"),
      ("nationalPrefixOptionalWhenFormatting", "true")],
    [.element "numberFormat" [("pattern", "(.+)")] [],
      .element "numberFormat" [("nationalPrefixFormattingRule", "")] []]⟩

example : ((withPrefixRuleWritten halfRuled).findAll Vocabulary.numberFormat).map (·.attributes) =
    [[("nationalPrefixFormattingRule", "($NP$FG)"),
        ("nationalPrefixOptionalWhenFormatting", "true"), ("pattern", "(.+)")],
      [("nationalPrefixFormattingRule", "")]] := by
  decide +kernel

end NumberingPlan

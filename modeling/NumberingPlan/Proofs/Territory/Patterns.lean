import NumberingPlan.Proofs.Territory.Compression

/-! The patterns of a record. Whatever a record took from a place where patterns are checked is a
regular expression, and has no blanks where blanks are dropped. The prefix for parsing alone has a
second source that is not checked: the national prefix, which is taken as it is. -/

namespace NumberingPlan

open Fallible
open Xml (Element)

/-- A text that the reader of patterns takes for a regular expression. -/
def IsPattern [PatternReader] (text : String) : Prop := PatternReader.check text = .ok ()

/-- A regular expression without blanks. -/
structure IsCompactPattern [PatternReader] (text : String) : Prop where
  isPattern : IsPattern text
  compact : ∀ c ∈ text.toList, Text.isBlank c = false

/-- The text without its blanks. -/
def withoutBlanks (text : String) : String := String.ofList (Text.dropBlanks text.toList)

section Checked

variable [PatternReader]

theorem validPattern_ok {text made : String} :
    validPattern text = .ok made ↔ made = text ∧ IsPattern text := by
  unfold IsPattern validPattern
  cases PatternReader.check text with
  | error fault => simp [Except.map, Except.mapError]
  | ok _ => simp [Except.map, Except.mapError, eq_comm]

theorem IsPattern.of_valid {text made : String} (valid : validPattern text = .ok made) :
    IsPattern made := by
  obtain ⟨rfl, isPattern⟩ := validPattern_ok.1 valid
  exact isPattern

theorem validCompactPattern_ok {text made : String} :
    validCompactPattern text = .ok made ↔
      made = withoutBlanks text ∧ IsCompactPattern (withoutBlanks text) := by
  have compact : ∀ c ∈ (withoutBlanks text).toList, Text.isBlank c = false := by
    intro c member
    rw [withoutBlanks, String.toList_ofList] at member
    exact Text.dropBlanks_no_blank member
  unfold validCompactPattern
  rw [validPattern_ok]
  refine and_congr_right fun _ => ⟨fun isPattern => ?_, fun known => known.isPattern⟩
  exact ⟨isPattern, compact⟩

theorem IsCompactPattern.of_valid {text made : String}
    (valid : validCompactPattern text = .ok made) : IsCompactPattern made := by
  obtain ⟨rfl, known⟩ := validCompactPattern_ok.1 valid
  exact known

/-- An attribute that is checked when it is there gives a pattern. -/
theorem IsPattern.of_optional {given made : Option String}
    (valid : given.mapM validPattern = .ok made) : ∀ text ∈ made, IsPattern text := by
  intro text member
  obtain ⟨_, -, checked⟩ := mem_optionMapM valid member
  exact .of_valid checked

end Checked

/-- The patterns of a format rule. -/
structure FormatRule.Checked [PatternReader] (rule : FormatRule) : Prop where
  pattern : IsPattern rule.pattern
  leadingDigits : ∀ digits ∈ rule.leadingDigits, IsCompactPattern digits

/-- The pattern of a description, if it has one. -/
def Descriptor.Checked [PatternReader] (desc : Descriptor) : Prop :=
  ∀ pattern ∈ desc.pattern, IsCompactPattern pattern

/-- The patterns of a record, save the prefix for parsing. -/
structure Territory.Checked [PatternReader] (territory : Territory) : Prop where
  general : territory.general.Checked
  typed : ∀ kind, ∀ desc ∈ territory.typed kind, desc.Checked
  formats : ∀ rule ∈ territory.formats, rule.Checked
  internationalFormats : ∀ rule ∈ territory.internationalFormats, rule.Checked
  leadingDigits : ∀ pattern ∈ territory.leadingDigits, IsPattern pattern
  internationalPrefix : ∀ pattern ∈ territory.internationalPrefix, IsPattern pattern
  transformRule : ∀ rule ∈ territory.nationalPrefixTransformRule, IsPattern rule
  transformed : territory.nationalPrefixTransformRule ≠ none →
    territory.nationalPrefixForParsing ≠ none

section Descriptions

variable [PatternReader]

/-- The first pattern without its blanks, if there is one, and the first sample. -/
theorem readPatternAndSample_ok {element : Element} {pattern sample : Option String} :
    readPatternAndSample element = .ok (pattern, sample) ↔
      (pattern = (element.findAll Vocabulary.nationalNumberPattern).head?.map
          (fun first => withoutBlanks first.text) ∧
        ∀ text ∈ pattern, IsCompactPattern text) ∧
      sample = (element.findAll Vocabulary.exampleNumber).head?.map Element.text := by
  unfold readPatternAndSample
  simp only [bind_ok, optionMapM_ok, validCompactPattern_ok, Except.ok.injEq, Prod.mk.injEq,
    @eq_comm _ _ sample]
  generalize (element.findAll Vocabulary.nationalNumberPattern).head? = found
  constructor
  · rintro ⟨own, related, rfl, same⟩
    refine ⟨?_, same⟩
    cases related with
    | none => simp
    | some checked =>
      obtain ⟨rfl, compact⟩ := checked
      simpa using compact
  · rintro ⟨⟨rfl, compact⟩, same⟩
    refine ⟨_, ?_, rfl, same⟩
    cases found with
    | none => exact .none
    | some first => exact .some ⟨rfl, compact _ rfl⟩

theorem readPatternAndSample_checked {element : Element} {pattern sample : Option String}
    (read : readPatternAndSample element = .ok (pattern, sample)) :
    ∀ text ∈ pattern, IsCompactPattern text :=
  (readPatternAndSample_ok.1 read).1.2

theorem numberDesc_checked {territory : Element} {tag : String} {general desc : Descriptor}
    (described : numberDesc territory tag general = .ok desc) : desc.Checked := by
  rcases numberDesc_ok.1 described with ⟨-, rfl⟩ | ⟨_, _, _, -, -, -, read⟩
  · exact nofun
  · exact readPatternAndSample_checked read

/-- The pattern of the general description is checked like that of any other. -/
theorem generalDesc_checked {territory : Element} {isShortNumber : Bool} {general : Descriptor}
    (derived : generalDesc territory isShortNumber = .ok general) : general.Checked := by
  rcases generalPatternAndSample_ok.1 (generalDesc_parts derived).1 with ⟨-, missing, -⟩ |
    ⟨own, -, -, read⟩
  · simp [Descriptor.Checked, missing]
  · exact readPatternAndSample_checked read

/-- What stands under a kind is what its tag gives. -/
theorem numberDesc_of_lookup {element : Element} {general desc : Descriptor} {variant : Variant}
    {types : List (NumberType × Descriptor)}
    (described : typedDescs element general variant = .ok types) {kind : NumberType}
    (found : types.lookup kind = some desc) :
    numberDesc element kind.tag general = .ok desc := by
  obtain ⟨before, after, rfl, -⟩ := List.lookup_eq_some_iff.1 found
  unfold typedDescs at described
  split at described
  · simp at described
  · obtain ⟨other, -, one⟩ := mem_mapM described (y := (kind, desc)) (by simp)
    obtain ⟨own, given, same⟩ := bind_ok.1 one
    obtain ⟨rfl, rfl⟩ : other = kind ∧ own = desc := by simpa using same
    exact given

end Descriptions

section Formats

variable [PatternReader]

theorem nationalFormat_checked {element : Element} {defaults : FormatDefaults} {rule : FormatRule}
    (made : nationalFormat element defaults = .ok rule) : rule.Checked := by
  obtain ⟨pattern, valid, made⟩ := bind_ok.1 made
  obtain ⟨format, -, made⟩ := bind_ok.1 made
  obtain ⟨leadingDigits, digits, made⟩ := bind_ok.1 made
  cases made
  refine ⟨.of_valid valid, fun text member => ?_⟩
  obtain ⟨node, -, compact⟩ := mem_mapM digits member
  exact .of_valid compact

/-- An international rule has the patterns of the national one. -/
theorem internationalFormat_checked {element : Element} {national rule : FormatRule}
    {explicit : Bool} (known : national.Checked)
    (made : internationalFormat element national = .ok (some rule, explicit)) : rule.Checked := by
  unfold internationalFormat at made
  dsimp only at made
  split at made
  · cases made
    exact ⟨known.pattern, known.leadingDigits⟩
  · split at made
    · cases made
    · cases made
      exact ⟨known.pattern, known.leadingDigits⟩
  · cases made

theorem formatPair_checked {defaults : FormatDefaults} {element : Element}
    {pair : FormatRule × Option FormatRule × Bool}
    (made : formatPair defaults element = .ok pair) :
    pair.1.Checked ∧ ∀ rule ∈ pair.2.1, rule.Checked := by
  obtain ⟨national, ofNational, made⟩ := bind_ok.1 made
  obtain ⟨⟨international, explicit⟩, ofInternational, made⟩ := bind_ok.1 made
  cases made
  have known := nationalFormat_checked ofNational
  refine ⟨known, fun rule given => ?_⟩
  obtain rfl := Option.mem_def.1 given
  exact internationalFormat_checked known ofInternational

theorem numberFormats_checked {territory : Element} {defaults : FormatDefaults}
    {rules : FormatRules} (made : numberFormats territory defaults = .ok rules) :
    (∀ rule ∈ rules.national, rule.Checked) ∧ ∀ rule ∈ rules.international, rule.Checked := by
  obtain ⟨pairs, run, made⟩ := bind_ok.1 made
  cases made
  have each : ∀ pair ∈ pairs, pair.1.Checked ∧ ∀ rule ∈ pair.2.1, rule.Checked := by
    intro pair member
    obtain ⟨element, -, given⟩ := mem_mapM run member
    exact formatPair_checked given
  refine ⟨fun rule member => ?_, fun rule member => ?_⟩
  · obtain ⟨pair, among, rfl⟩ := List.mem_map.1 member
    exact (each pair among).1
  · dsimp only at member
    split at member
    · obtain ⟨pair, among, given⟩ := List.mem_filterMap.1 member
      exact (each pair among).2 rule given
    · simp at member

end Formats

section Attributes

variable [PatternReader]

/-- The rules for parsing that an element declares: a rule to transform only beside a prefix. -/
theorem parsingRules_ok {element : Element} {forParsing transform : Option String} :
    parsingRules element = .ok (forParsing, transform) ↔
      (element.value? Vocabulary.nationalPrefixForParsing = none ∧ forParsing = none ∧
        transform = none) ∨
      ∃ text, element.value? Vocabulary.nationalPrefixForParsing = some text ∧
        forParsing = some (withoutBlanks text) ∧ IsCompactPattern (withoutBlanks text) ∧
        (element.value? Vocabulary.nationalPrefixTransformRule).mapM validPattern =
          .ok transform := by
  unfold parsingRules
  split
  · next missing => simp [missing, eq_comm]
  · next text given =>
    simp only [given, bind_ok, validCompactPattern_ok, Except.ok.injEq, Prod.mk.injEq]
    constructor
    · rintro ⟨_, ⟨rfl, known⟩, _, valid, rfl, rfl⟩
      exact .inr ⟨text, rfl, rfl, known, valid⟩
    · rintro (⟨impossible, -⟩ | ⟨_, ⟨⟩, rfl, known, valid⟩)
      · cases impossible
      · exact ⟨_, ⟨rfl, known⟩, _, valid, rfl, rfl⟩

/-- What the attributes of an element make of the patterns of a record. -/
structure AttributePatterns (element : Element) (base : Territory) : Prop where
  leadingDigits : (element.value? Vocabulary.leadingDigits).mapM validPattern =
    .ok base.leadingDigits
  internationalPrefix : (element.value? Vocabulary.internationalPrefix).mapM validPattern =
    .ok base.internationalPrefix
  nationalPrefix : base.nationalPrefix = nonempty? (element.value Vocabulary.nationalPrefix)
  forParsing : ∃ declared, parsingRules element = .ok (declared, base.nationalPrefixTransformRule) ∧
    base.nationalPrefixForParsing = (declared <|> base.nationalPrefix)

theorem territoryAttributes_patterns {id : String} {element : Element} {base : Territory}
    (attributes : territoryAttributes id element = .ok base) : AttributePatterns element base := by
  obtain ⟨⟨declared, transform⟩, rules, attributes⟩ := bind_ok.1 attributes
  obtain ⟨countryCode, -, attributes⟩ := bind_ok.1 attributes
  obtain ⟨leadingDigits, ofDigits, attributes⟩ := bind_ok.1 attributes
  obtain ⟨internationalPrefix, ofPrefix, attributes⟩ := bind_ok.1 attributes
  cases attributes
  exact ⟨ofDigits, ofPrefix, rfl, declared, rules, rfl⟩

end Attributes

section Record

theorem compileTerritory_checked [PatternReader] {id : String} {element : Element}
    {variant : Variant}
    {territory : Territory} (compiled : compileTerritory id element variant = .ok territory) :
    territory.Checked := by
  obtain ⟨base, rules, general, types, attributes, formats, derived, described, rfl⟩ :=
    resolveTerritory_ok.1 (compileTerritory_ok.1 compiled)
  have own := territoryAttributes_patterns attributes
  obtain ⟨declared, parsing, forParsing⟩ := own.forParsing
  have national := numberFormats_checked formats
  constructor
  case general => exact generalDesc_checked derived
  case typed =>
    intro kind desc found
    exact numberDesc_checked (numberDesc_of_lookup described found)
  case formats => exact national.1
  case internationalFormats => exact national.2
  case leadingDigits => exact .of_optional own.leadingDigits
  case internationalPrefix => exact .of_optional own.internationalPrefix
  case transformRule =>
    change ∀ rule ∈ base.nationalPrefixTransformRule, IsPattern rule
    rcases parsingRules_ok.1 parsing with ⟨-, -, none⟩ | ⟨_, -, -, -, valid⟩
    · simp [none]
    · exact .of_optional valid
  case transformed =>
    change base.nationalPrefixTransformRule ≠ none → base.nationalPrefixForParsing ≠ none
    rcases parsingRules_ok.1 parsing with ⟨-, -, none⟩ | ⟨_, -, some, -, -⟩
    · simp [none]
    · simp [forParsing, some]

/-- The prefix for parsing has one of two sources. -/
theorem forParsing_source [PatternReader] {id : String} {element : Element} {variant : Variant}
    {territory : Territory} (compiled : compileTerritory id element variant = .ok territory) :
    (∃ declared, element.value? Vocabulary.nationalPrefixForParsing = some declared ∧
      territory.nationalPrefixForParsing = some (withoutBlanks declared) ∧
      IsCompactPattern (withoutBlanks declared)) ∨
    (element.value? Vocabulary.nationalPrefixForParsing = none ∧
      territory.nationalPrefixForParsing =
        nonempty? (element.value Vocabulary.nationalPrefix)) := by
  obtain ⟨base, rules, general, types, attributes, -, -, -, rfl⟩ :=
    resolveTerritory_ok.1 (compileTerritory_ok.1 compiled)
  have own := territoryAttributes_patterns attributes
  obtain ⟨declared, parsing, forParsing⟩ := own.forParsing
  change (∃ declared, _ ∧ base.nationalPrefixForParsing = _ ∧ _) ∨
    (_ ∧ base.nationalPrefixForParsing = _)
  rcases parsingRules_ok.1 parsing with ⟨missing, rfl, -⟩ | ⟨text, given, rfl, known, -⟩
  · exact .inr ⟨missing, by simp [forParsing, own.nationalPrefix]⟩
  · exact .inl ⟨text, given, by simp [forParsing], known⟩

theorem nonempty?_eq_some {text kept : String} :
    nonempty? text = some kept ↔ text = kept ∧ kept ≠ "" := by
  unfold nonempty?
  constructor
  · intro given
    split at given
    · cases given
    · next some =>
      cases given
      exact ⟨rfl, by simpa using some⟩
  · rintro ⟨rfl, some⟩
    rw [if_neg (by simpa using some)]

/-- A prefix for parsing that is declared is a regular expression without blanks. One that is not
declared is the national prefix as it stands, and is usable just when that happens to be so. -/
theorem forParsing_usable_iff [PatternReader] {id : String} {element : Element} {variant : Variant}
    {territory : Territory} (compiled : compileTerritory id element variant = .ok territory)
    {forParsing : String} (kept : territory.nationalPrefixForParsing = some forParsing) :
    (IsCompactPattern forParsing ↔ element.has Vocabulary.nationalPrefixForParsing = true ∨
      IsCompactPattern (element.value Vocabulary.nationalPrefix)) ∧
    (∀ declared, element.value? Vocabulary.nationalPrefixForParsing = some declared →
      forParsing = withoutBlanks declared) ∧
    (element.value? Vocabulary.nationalPrefixForParsing = none →
      forParsing = element.value Vocabulary.nationalPrefix ∧ forParsing ≠ "") := by
  rcases forParsing_source compiled with ⟨declared, given, same, known⟩ | ⟨missing, same⟩
  · obtain rfl : forParsing = withoutBlanks declared := by simpa [same] using kept.symm
    simp [Element.has, given, known]
  · rw [same, nonempty?_eq_some] at kept
    obtain ⟨rfl, some⟩ := kept
    simp [Element.has, missing, some]

open scoped Standard

/-- A territory that declares its prefix for parsing, with blanks in it. -/
def declaredPrefix : Element :=
  ⟨"territory", [("countryCode", "54"), ("nationalPrefix", "0"),
    ("nationalPrefixForParsing", "0?(?: 11 | 2 )")], []⟩

theorem forParsing_of_declaredPrefix :
    ∃ territory, compileTerritory "AR" declaredPrefix ⟨false, false⟩ = .ok territory ∧
      territory.nationalPrefixForParsing = some "0?(?:11|2)" ∧
      (IsCompactPattern "0?(?:11|2)" ↔
        declaredPrefix.has Vocabulary.nationalPrefixForParsing = true ∨
          IsCompactPattern (declaredPrefix.value Vocabulary.nationalPrefix)) ∧
      "0?(?:11|2)" = withoutBlanks "0?(?: 11 | 2 )" := by
  have compiles : (compileTerritory "AR" declaredPrefix ⟨false, false⟩).map
      (·.nationalPrefixForParsing) = .ok (some "0?(?:11|2)") := by decide +kernel
  obtain ⟨territory, compiled, kept⟩ := map_ok.1 compiles
  obtain ⟨usable, declared, -⟩ := forParsing_usable_iff compiled kept
  exact ⟨territory, compiled, kept, usable, declared _ rfl⟩

/-- A territory whose national prefix is no regular expression. -/
def unclosedPrefix : Element :=
  ⟨"territory", [("countryCode", "1"), ("nationalPrefix", "(")], []⟩

/-- The record is made, and its prefix for parsing cannot be used. -/
theorem forParsing_of_unclosedPrefix :
    (compileTerritory "A" unclosedPrefix ⟨false, false⟩).map (·.nationalPrefixForParsing) =
        .ok (some "(") ∧
      validPattern "(" = .error (.rejected
        { code := .patternInvalid, input := "(", message := "invalid regular expression: " ++
            "missing ), unterminated subpattern at position 0" }) := by
  constructor <;> decide +kernel

end Record

end NumberingPlan

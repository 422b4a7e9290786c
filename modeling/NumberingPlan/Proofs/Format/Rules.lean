import NumberingPlan.Proofs.Territory.Patterns

/-! The formats of a territory, taken together. Each format makes one national rule by itself. The
international rules are a second list, which is kept only if some format says how it is written
abroad, be it by the mark that it is not dialled from there; then a format that says nothing is
written abroad as at home. -/

namespace NumberingPlan

open Fallible
open Xml (Element)

/-- A format that makes a rule. A pattern that is missing counts as empty. -/
structure WellFormedFormat [PatternReader] (element : Element) : Prop where
  pattern : IsPattern (element.value Vocabulary.pattern)
  oneTemplate : (element.findAll Vocabulary.format).length = 1
  leadingDigits : ∀ node ∈ element.findAll Vocabulary.leadingDigits,
    IsCompactPattern (withoutBlanks node.text)
  oneAbroad : (element.findAll Vocabulary.intlFormat).length ≤ 1

/-- What is wrong with a format: the first of four things to be looked at, in this order. -/
inductive FormatFault [PatternReader] (element : Element) : Fault → Prop where
  | pattern {fault : Fault}
      (refused : validPattern (element.value Vocabulary.pattern) = .error fault) :
      FormatFault element fault
  | templates (pattern : IsPattern (element.value Vocabulary.pattern)) {count : Nat}
      (found : (element.findAll Vocabulary.format).length = count) (notOne : count ≠ 1) :
      FormatFault element (.rejected
        { code := .formatCount, input := element.value Vocabulary.pattern,
          message := "expected exactly one format pattern per numberFormat, found "
            ++ Decimal.text count,
          witness := some [Decimal.text count] })
  | leadingDigits (pattern : IsPattern (element.value Vocabulary.pattern))
      (oneTemplate : (element.findAll Vocabulary.format).length = 1) {before after : List Element}
      {node : Element} (order : element.findAll Vocabulary.leadingDigits = before ++ node :: after)
      (earlier : ∀ other ∈ before, IsCompactPattern (withoutBlanks other.text)) {fault : Fault}
      (refused : validPattern (withoutBlanks node.text) = .error fault) : FormatFault element fault
  | abroad (pattern : IsPattern (element.value Vocabulary.pattern))
      (oneTemplate : (element.findAll Vocabulary.format).length = 1)
      (leadingDigits : ∀ node ∈ element.findAll Vocabulary.leadingDigits,
        IsCompactPattern (withoutBlanks node.text)) {count : Nat}
      (found : (element.findAll Vocabulary.intlFormat).length = count) (several : 1 < count) :
      FormatFault element (.rejected
        { code := .intlFormatDuplicate, input := element.value Vocabulary.pattern,
          message := "a maximum of one intlFormat pattern for a numberFormat element is allowed",
          witness := some [Decimal.text count] })

/-- The national rule of a format: its own pattern, template and leading digits in document order,
and its own prefix and carrier rules where it has them, else the inherited ones. -/
structure FormatRule.MadeFrom (defaults : FormatDefaults) (element : Element) (rule : FormatRule) :
    Prop where
  pattern : rule.pattern = element.value Vocabulary.pattern
  format : (element.findAll Vocabulary.format).map Element.text = [rule.format]
  leadingDigits : rule.leadingDigits =
    (element.findAll Vocabulary.leadingDigits).map fun node => withoutBlanks node.text
  ownPrefix : element.has Vocabulary.nationalPrefixFormattingRule = true →
    rule.prefixRule = prefixRuleOf element defaults.nationalPrefix ∧
      rule.prefixOptional = element.has Vocabulary.nationalPrefixOptionalWhenFormatting
  inheritedPrefix : element.has Vocabulary.nationalPrefixFormattingRule = false →
    rule.prefixRule = defaults.prefixRule ∧ rule.prefixOptional = defaults.prefixOptional
  ownCarrier : element.has Vocabulary.carrierCodeFormattingRule = true →
    rule.carrierRule = carrierRuleOf element defaults.nationalPrefix
  inheritedCarrier : element.has Vocabulary.carrierCodeFormattingRule = false →
    rule.carrierRule = defaults.carrierRule

/-- The rule abroad that goes with a national one: no prefix and no carrier in it. -/
def FormatRule.abroad (national : FormatRule) (template : String) : FormatRule :=
  { pattern := national.pattern
    format := template
    leadingDigits := national.leadingDigits
    prefixRule := none
    prefixOptional := false
    carrierRule := none }

/-- The rules abroad of formats with these national rules, in their order. -/
inductive WrittenAbroad : List Element → List FormatRule → List FormatRule → Prop where
  | nil : WrittenAbroad [] [] []
  | asAtHome {element : Element} {elements : List Element} {rule : FormatRule}
      {national international : List FormatRule}
      (silent : element.findAll Vocabulary.intlFormat = [])
      (others : WrittenAbroad elements national international) :
      WrittenAbroad (element :: elements) (rule :: national)
        (rule.abroad rule.format :: international)
  | notDialled {element given : Element} {elements : List Element} {rule : FormatRule}
      {national international : List FormatRule}
      (one : element.findAll Vocabulary.intlFormat = [given])
      (mark : given.text = Vocabulary.notApplicable)
      (others : WrittenAbroad elements national international) :
      WrittenAbroad (element :: elements) (rule :: national) international
  | asGiven {element given : Element} {elements : List Element} {rule : FormatRule}
      {national international : List FormatRule}
      (one : element.findAll Vocabulary.intlFormat = [given])
      (template : given.text ≠ Vocabulary.notApplicable)
      (others : WrittenAbroad elements national international) :
      WrittenAbroad (element :: elements) (rule :: national)
        (rule.abroad given.text :: international)

/-- The rules that formats make together. -/
structure FormatRules.MadeFrom (defaults : FormatDefaults) (formats : List Element)
    (rules : FormatRules) : Prop where
  national : List.Forall₂ (FormatRule.MadeFrom defaults) formats rules.national
  silent : (∀ element ∈ formats, element.findAll Vocabulary.intlFormat = []) →
    rules.international = []
  spoken : (∃ element ∈ formats, element.findAll Vocabulary.intlFormat ≠ []) →
    WrittenAbroad formats rules.national rules.international

section National

variable {element : Element} {defaults : FormatDefaults}

theorem FormatRule.MadeFrom.oneTemplate {rule : FormatRule}
    (made : rule.MadeFrom defaults element) :
    (element.findAll Vocabulary.format).length = 1 := by
  simpa using congrArg List.length made.format

theorem singleFormat_ok {pattern format : String} :
    singleFormat element pattern = .ok format ↔
      (element.findAll Vocabulary.format).map Element.text = [format] := by
  unfold singleFormat
  split
  · next template one => simp [one]
  · next others notOne =>
    simp only [reduceCtorEq, List.map_eq_singleton_iff, false_iff, not_exists, not_and]
    exact fun template one => absurd one (notOne template)

theorem singleFormat_error {pattern : String} {fault : Fault} :
    singleFormat element pattern = .error fault ↔ ∃ count,
      (element.findAll Vocabulary.format).length = count ∧ count ≠ 1 ∧ fault = .rejected
        { code := .formatCount, input := pattern,
          message := "expected exactly one format pattern per numberFormat, found "
            ++ Decimal.text count,
          witness := some [Decimal.text count] } := by
  unfold singleFormat
  split
  · next template one => simp [one]
  · next others notOne =>
    have several : (element.findAll Vocabulary.format).length ≠ 1 := by
      simpa [List.length_eq_one_iff] using notOne
    simp [several, eq_comm]

theorem prefixRuleFor_iff {rule : Option String} {optional : Bool} :
    prefixRuleFor element defaults = (rule, optional) ↔
      (element.has Vocabulary.nationalPrefixFormattingRule = true →
        rule = prefixRuleOf element defaults.nationalPrefix ∧
          optional = element.has Vocabulary.nationalPrefixOptionalWhenFormatting) ∧
      (element.has Vocabulary.nationalPrefixFormattingRule = false →
        rule = defaults.prefixRule ∧ optional = defaults.prefixOptional) := by
  unfold prefixRuleFor
  cases element.has Vocabulary.nationalPrefixFormattingRule <;> simp [eq_comm]

theorem carrierRuleFor_iff {rule : Option String} :
    carrierRuleFor element defaults = rule ↔
      (element.has Vocabulary.carrierCodeFormattingRule = true →
        rule = carrierRuleOf element defaults.nationalPrefix) ∧
      (element.has Vocabulary.carrierCodeFormattingRule = false → rule = defaults.carrierRule) := by
  unfold carrierRuleFor
  cases element.has Vocabulary.carrierCodeFormattingRule <;> simp [eq_comm]

theorem FormatRule.madeFrom_iff {rule : FormatRule} :
    rule.MadeFrom defaults element ↔ rule.pattern = element.value Vocabulary.pattern ∧
      (element.findAll Vocabulary.format).map Element.text = [rule.format] ∧
      rule.leadingDigits =
        (element.findAll Vocabulary.leadingDigits).map (fun node => withoutBlanks node.text) ∧
      prefixRuleFor element defaults = (rule.prefixRule, rule.prefixOptional) ∧
      carrierRuleFor element defaults = rule.carrierRule := by
  rw [prefixRuleFor_iff, carrierRuleFor_iff]
  constructor
  · rintro ⟨pattern, format, leadingDigits, ownPrefix, inheritedPrefix, ownCarrier,
      inheritedCarrier⟩
    exact ⟨pattern, format, leadingDigits, ⟨ownPrefix, inheritedPrefix⟩, ownCarrier,
      inheritedCarrier⟩
  · rintro ⟨pattern, format, leadingDigits, ⟨ownPrefix, inheritedPrefix⟩, ownCarrier,
      inheritedCarrier⟩
    exact ⟨pattern, format, leadingDigits, ownPrefix, inheritedPrefix, ownCarrier,
      inheritedCarrier⟩

variable [PatternReader]

theorem leadingDigits_ok {nodes : List Element} {digits : List String} :
    nodes.mapM (fun node => validCompactPattern node.text) = .ok digits ↔
      (∀ node ∈ nodes, IsCompactPattern (withoutBlanks node.text)) ∧
        digits = nodes.map fun node => withoutBlanks node.text :=
  mapM_ok_map fun _ _ => validCompactPattern_ok.trans and_comm

theorem nationalFormat_ok {rule : FormatRule} :
    nationalFormat element defaults = .ok rule ↔
      IsPattern (element.value Vocabulary.pattern) ∧
        (∀ node ∈ element.findAll Vocabulary.leadingDigits,
          IsCompactPattern (withoutBlanks node.text)) ∧ rule.MadeFrom defaults element := by
  simp only [nationalFormat, bind_ok, validPattern_ok, singleFormat_ok, leadingDigits_ok,
    FormatRule.madeFrom_iff, Except.ok.injEq]
  constructor
  · rintro ⟨_, ⟨rfl, pattern⟩, format, one, _, ⟨digits, rfl⟩, rfl⟩
    exact ⟨pattern, digits, rfl, one, rfl, rfl, rfl⟩
  · rintro ⟨isPattern, compact, pattern, one, leadingDigits, prefixRule, carrierRule⟩
    refine ⟨_, ⟨rfl, isPattern⟩, _, one, _, ⟨compact, rfl⟩, ?_⟩
    rw [prefixRule, carrierRule, ← pattern, ← leadingDigits]

theorem nationalFormat_succeeds (pattern : IsPattern (element.value Vocabulary.pattern))
    (oneTemplate : (element.findAll Vocabulary.format).length = 1)
    (compact : ∀ node ∈ element.findAll Vocabulary.leadingDigits,
      IsCompactPattern (withoutBlanks node.text)) :
    ∃ rule, nationalFormat element defaults = .ok rule := by
  obtain ⟨template, one⟩ := List.length_eq_one_iff.1 oneTemplate
  let rule : FormatRule :=
    { pattern := element.value Vocabulary.pattern
      format := template.text
      leadingDigits := (element.findAll Vocabulary.leadingDigits).map
        fun node => withoutBlanks node.text
      prefixRule := (prefixRuleFor element defaults).1
      prefixOptional := (prefixRuleFor element defaults).2
      carrierRule := carrierRuleFor element defaults }
  have made : rule.MadeFrom defaults element :=
    FormatRule.madeFrom_iff.2 ⟨rfl, by simp [one, rule], rfl, rfl, rfl⟩
  exact ⟨rule, nationalFormat_ok.2 ⟨pattern, compact, made⟩⟩

theorem nationalFormat_error {fault : Fault} :
    nationalFormat element defaults = .error fault ↔
      validPattern (element.value Vocabulary.pattern) = .error fault ∨
      IsPattern (element.value Vocabulary.pattern) ∧
        (singleFormat element (element.value Vocabulary.pattern) = .error fault ∨
          (element.findAll Vocabulary.format).length = 1 ∧
            (element.findAll Vocabulary.leadingDigits).mapM
              (fun node => validCompactPattern node.text) = .error fault) := by
  have someFormat (pattern : String) : (∃ format, singleFormat element pattern = .ok format) ↔
      (element.findAll Vocabulary.format).length = 1 := by
    simp [singleFormat_ok, List.length_eq_one_iff, List.map_eq_singleton_iff]
  unfold nationalFormat
  simp only [bind_error, validPattern_ok, and_assoc, exists_eq_left, reduceCtorEq, and_false,
    exists_false, or_false, exists_and_right, someFormat]

end National

section International

variable {element : Element} {national : FormatRule}

theorem internationalFormat_silent (silent : element.findAll Vocabulary.intlFormat = []) :
    internationalFormat element national =
      .ok (some (national.abroad national.format), false) := by
  simp [internationalFormat, silent, FormatRule.abroad]

theorem internationalFormat_one {given : Element}
    (one : element.findAll Vocabulary.intlFormat = [given]) :
    internationalFormat element national =
      .ok (if given.text = Vocabulary.notApplicable then none
        else some (national.abroad given.text), true) := by
  simp only [internationalFormat, one, FormatRule.abroad]
  split <;> rfl

theorem internationalFormat_several
    (several : 1 < (element.findAll Vocabulary.intlFormat).length) :
    internationalFormat element national = .error (.rejected
      { code := .intlFormatDuplicate, input := national.pattern,
        message := "a maximum of one intlFormat pattern for a numberFormat element is allowed",
        witness := some [Decimal.text (element.findAll Vocabulary.intlFormat).length] }) := by
  unfold internationalFormat
  match found : element.findAll Vocabulary.intlFormat, several with
  | _ :: _ :: _, _ => rfl

/-- What stands beside a national rule, by what the format says about it. -/
theorem internationalFormat_cases {beside : Option FormatRule × Bool}
    (made : internationalFormat element national = .ok beside) :
    (element.findAll Vocabulary.intlFormat = [] ∧
      beside = (some (national.abroad national.format), false)) ∨
    ∃ given, element.findAll Vocabulary.intlFormat = [given] ∧
      beside = (if given.text = Vocabulary.notApplicable then none
        else some (national.abroad given.text), true) := by
  match found : element.findAll Vocabulary.intlFormat with
  | [] =>
    rw [internationalFormat_silent found, Except.ok.injEq] at made
    exact .inl ⟨rfl, made.symm⟩
  | [given] =>
    rw [internationalFormat_one found, Except.ok.injEq] at made
    exact .inr ⟨given, rfl, made.symm⟩
  | _ :: _ :: _ =>
    rw [internationalFormat_several (by simp [found])] at made
    cases made

/-- Nothing but a second template can be wrong. -/
theorem internationalFormat_error {fault : Fault} :
    internationalFormat element national = .error fault ↔ ∃ count,
      (element.findAll Vocabulary.intlFormat).length = count ∧ 1 < count ∧ fault = .rejected
        { code := .intlFormatDuplicate, input := national.pattern,
          message := "a maximum of one intlFormat pattern for a numberFormat element is allowed",
          witness := some [Decimal.text count] } := by
  by_cases several : 1 < (element.findAll Vocabulary.intlFormat).length
  · simp [internationalFormat_several several, several, eq_comm]
  · match found : element.findAll Vocabulary.intlFormat with
    | [] => simp [internationalFormat_silent found]
    | [given] => simp [internationalFormat_one found]
    | _ :: _ :: _ => simp [found] at several

end International

section Pair

variable [PatternReader] {element : Element} {defaults : FormatDefaults}

theorem formatPair_ok {pair : FormatRule × Option FormatRule × Bool} :
    formatPair defaults element = .ok pair ↔ nationalFormat element defaults = .ok pair.1 ∧
      internationalFormat element pair.1 = .ok pair.2 := by
  obtain ⟨national, international, explicit⟩ := pair
  simp only [formatPair, bind_ok, Except.ok.injEq, Prod.mk.injEq]
  constructor
  · rintro ⟨_, ofNational, _, ofInternational, rfl, rfl, rfl⟩
    exact ⟨ofNational, ofInternational⟩
  · rintro ⟨ofNational, ofInternational⟩
    exact ⟨_, ofNational, _, ofInternational, rfl, rfl, rfl⟩

theorem formatPair_error {fault : Fault} :
    formatPair defaults element = .error fault ↔ FormatFault element fault := by
  simp only [formatPair, bind_error, nationalFormat_error, singleFormat_error, mapM_error,
    internationalFormat_error]
  constructor
  · rintro ((refused | ⟨pattern, ⟨count, found, notOne, rfl⟩ |
      ⟨oneTemplate, before, node, after, order, earlier, refused⟩⟩) |
      ⟨national, ofNational, ⟨count, found, several, rfl⟩ | impossible⟩)
    · exact .pattern refused
    · exact .templates pattern found notOne
    · refine .leadingDigits pattern oneTemplate order (fun other member => ?_) refused
      obtain ⟨_, valid⟩ := earlier other member
      exact (validCompactPattern_ok.1 valid).2
    · obtain ⟨pattern, compact, made⟩ := nationalFormat_ok.1 ofNational
      rw [made.pattern]
      exact .abroad pattern made.oneTemplate compact found several
    · obtain ⟨_, -, impossible⟩ := impossible
      cases impossible
  · rintro (refused | ⟨pattern, found, notOne⟩ | ⟨pattern, oneTemplate, order, earlier, refused⟩ |
      ⟨pattern, oneTemplate, compact, found, several⟩)
    · exact .inl (.inl refused)
    · exact .inl (.inr ⟨pattern, .inl ⟨_, found, notOne, rfl⟩⟩)
    · refine .inl (.inr ⟨pattern, .inr ⟨oneTemplate, _, _, _, order, fun other member => ?_,
        refused⟩⟩)
      exact ⟨_, validCompactPattern_ok.2 ⟨rfl, earlier other member⟩⟩
    · obtain ⟨rule, ofNational⟩ := nationalFormat_succeeds pattern oneTemplate compact
      obtain ⟨-, -, made⟩ := nationalFormat_ok.1 ofNational
      exact .inr ⟨rule, ofNational, .inl ⟨_, found, several, by rw [made.pattern]⟩⟩

theorem formatPair_succeeds :
    (∃ pair, formatPair defaults element = .ok pair) ↔ WellFormedFormat element := by
  constructor
  · rintro ⟨pair, run⟩
    obtain ⟨ofNational, ofInternational⟩ := formatPair_ok.1 run
    obtain ⟨pattern, compact, made⟩ := nationalFormat_ok.1 ofNational
    refine ⟨pattern, made.oneTemplate, compact, ?_⟩
    by_contra several
    rw [internationalFormat_several (by omega)] at ofInternational
    cases ofInternational
  · rintro ⟨pattern, oneTemplate, compact, oneAbroad⟩
    obtain ⟨rule, ofNational⟩ := nationalFormat_succeeds pattern oneTemplate compact
    -- A second template abroad is the only fault left, and there is none.
    cases ofInternational : internationalFormat element rule with
    | ok beside => exact ⟨(rule, beside), formatPair_ok.2 ⟨ofNational, ofInternational⟩⟩
    | error fault =>
      obtain ⟨count, found, several, -⟩ := internationalFormat_error.1 ofInternational
      omega

/-- A rule abroad counts as explicit when the format says anything about it. -/
theorem explicit_iff {pair : FormatRule × Option FormatRule × Bool}
    (run : formatPair defaults element = .ok pair) :
    pair.2.2 = true ↔ element.findAll Vocabulary.intlFormat ≠ [] := by
  rcases internationalFormat_cases (formatPair_ok.1 run).2 with ⟨silent, beside⟩ |
    ⟨given, one, beside⟩
  · simp [silent, beside]
  · simp [one, beside]

end Pair

section Determined

variable {defaults : FormatDefaults} {formats : List Element}

theorem FormatRule.MadeFrom.unique {element : Element} {rule other : FormatRule}
    (made : rule.MadeFrom defaults element) (alike : other.MadeFrom defaults element) :
    rule = other := by
  rw [FormatRule.madeFrom_iff] at made alike
  obtain ⟨pattern, format, leadingDigits, prefixes, carrierRule⟩ := made
  obtain ⟨samePattern, sameFormat, sameDigits, samePrefixes, sameCarrier⟩ := alike
  rw [format, List.singleton_inj] at sameFormat
  rw [prefixes, Prod.mk.injEq] at samePrefixes
  rw [← pattern] at samePattern
  rw [← leadingDigits] at sameDigits
  rw [carrierRule] at sameCarrier
  cases rule
  cases other
  simp_all only

theorem WrittenAbroad.unique {national international others : List FormatRule}
    (written : WrittenAbroad formats national international)
    (alike : WrittenAbroad formats national others) : international = others := by
  induction written generalizing others with
  | nil =>
    cases alike
    rfl
  | asAtHome silent _ ih =>
    cases alike with
    | asAtHome _ rest => rw [ih rest]
    | notDialled one | asGiven one => simp [silent] at one
  | notDialled one mark _ ih =>
    cases alike with
    | asAtHome silent => simp [silent] at one
    | notDialled _ _ rest => exact ih rest
    | asGiven same template =>
      obtain rfl := List.singleton_inj.1 (one.symm.trans same)
      exact absurd mark template
  | asGiven one template _ ih =>
    cases alike with
    | asAtHome silent => simp [silent] at one
    | notDialled same mark =>
      obtain rfl := List.singleton_inj.1 (one.symm.trans same)
      exact absurd mark template
    | asGiven same _ rest =>
      obtain rfl := List.singleton_inj.1 (one.symm.trans same)
      rw [ih rest]

theorem FormatRules.MadeFrom.unique {rules others : FormatRules}
    (made : rules.MadeFrom defaults formats) (alike : others.MadeFrom defaults formats) :
    rules = others := by
  obtain ⟨national, international⟩ := rules
  obtain ⟨otherNational, otherInternational⟩ := others
  have oneRule : Relator.RightUnique (FormatRule.MadeFrom defaults) := fun _ _ _ =>
    FormatRule.MadeFrom.unique
  obtain rfl : national = otherNational := oneRule.forall₂ made.national alike.national
  congr
  by_cases spoken : ∃ element ∈ formats, element.findAll Vocabulary.intlFormat ≠ []
  · exact (made.spoken spoken).unique (alike.spoken spoken)
  · have silent : ∀ element ∈ formats, element.findAll Vocabulary.intlFormat = [] := by
      simpa using spoken
    exact (made.silent silent).trans (alike.silent silent).symm

end Determined

section Territory

variable [PatternReader] {defaults : FormatDefaults} {formats : List Element}
  {pairs : List (FormatRule × Option FormatRule × Bool)}

theorem writtenAbroad_of_pairs (run : formats.mapM (formatPair defaults) = .ok pairs) :
    WrittenAbroad formats (pairs.map (·.1)) (pairs.filterMap (·.2.1)) := by
  rw [mapM_ok] at run
  induction run with
  | nil => exact .nil
  | @cons element pair _ _ first _ others =>
    obtain ⟨national, beside⟩ := pair
    have made : internationalFormat element national = .ok beside := (formatPair_ok.1 first).2
    rcases internationalFormat_cases made with ⟨silent, rfl⟩ | ⟨given, one, rfl⟩
    · exact .asAtHome silent others
    · by_cases mark : given.text = Vocabulary.notApplicable
      · simpa [mark] using .notDialled one mark others
      · simpa [mark] using .asGiven one mark others

theorem madeFrom_of_pairs (run : formats.mapM (formatPair defaults) = .ok pairs) :
    FormatRules.MadeFrom defaults formats
      { national := pairs.map (·.1)
        international := if pairs.any (fun pair => pair.2.2) then
          pairs.filterMap (fun pair => pair.2.1) else [] } := by
  have anyExplicit : pairs.any (fun pair => pair.2.2) = true ↔
      ∃ element ∈ formats, element.findAll Vocabulary.intlFormat ≠ [] := by
    rw [List.any_eq_true, exists_mem_of_mapM run]
    refine exists_congr fun element => and_congr_right fun among => ?_
    obtain ⟨pair, made⟩ := mapM_succeeds.1 ⟨pairs, run⟩ element among
    rw [← explicit_iff made]
    simp [made]
  constructor
  case national =>
    rw [List.forall₂_map_right_iff]
    refine (mapM_ok.1 run).imp fun element pair made => ?_
    exact (nationalFormat_ok.1 (formatPair_ok.1 made).1).2.2
  case silent =>
    intro silent
    refine if_neg fun explicit => ?_
    obtain ⟨element, among, spoken⟩ := anyExplicit.1 explicit
    exact spoken (silent element among)
  case spoken =>
    intro spoken
    rw [anyExplicit.2 spoken, if_pos rfl]
    exact writtenAbroad_of_pairs run

theorem numberFormats_madeFrom {territory : Element} {rules : FormatRules}
    (made : numberFormats territory defaults = .ok rules) :
    rules.MadeFrom defaults (territory.findAll Vocabulary.numberFormat) := by
  obtain ⟨pairs, run, made⟩ := bind_ok.1 made
  cases made
  exact madeFrom_of_pairs run

theorem numberFormats_succeeds {territory : Element} :
    (∃ rules, numberFormats territory defaults = .ok rules) ↔
      ∀ element ∈ territory.findAll Vocabulary.numberFormat, WellFormedFormat element := by
  have perFormat (element : Element) : WellFormedFormat element ↔
      ∃ pair, formatPair defaults element = .ok pair := formatPair_succeeds.symm
  simp only [perFormat, ← mapM_succeeds]
  constructor
  · rintro ⟨rules, made⟩
    obtain ⟨pairs, run, -⟩ := bind_ok.1 made
    exact ⟨pairs, run⟩
  · rintro ⟨pairs, run⟩
    exact ⟨_, bind_ok.2 ⟨pairs, run, rfl⟩⟩

/-- A territory has rules exactly when all of its formats are well formed, and they are those that
the formats make; else the fault is that of the first format which is not, found by the first of
the four checks. -/
theorem numberFormats_closedForm (territory : Element) (defaults : FormatDefaults) :
    ((∃ rules, numberFormats territory defaults = .ok rules) ↔
      ∀ element ∈ territory.findAll Vocabulary.numberFormat, WellFormedFormat element) ∧
    (∀ rules, numberFormats territory defaults = .ok rules ↔
      (∀ element ∈ territory.findAll Vocabulary.numberFormat, WellFormedFormat element) ∧
        rules.MadeFrom defaults (territory.findAll Vocabulary.numberFormat)) ∧
    (∀ fault, numberFormats territory defaults = .error fault ↔ ∃ before element after,
      territory.findAll Vocabulary.numberFormat = before ++ element :: after ∧
        (∀ other ∈ before, WellFormedFormat other) ∧ FormatFault element fault) := by
  refine ⟨numberFormats_succeeds, fun rules => ⟨fun made => ?_, ?_⟩, fun fault => ?_⟩
  · exact ⟨numberFormats_succeeds.1 ⟨rules, made⟩, numberFormats_madeFrom made⟩
  · rintro ⟨wellFormed, made⟩
    obtain ⟨others, run⟩ := numberFormats_succeeds.2 wellFormed
    rw [run, made.unique (numberFormats_madeFrom run)]
  · simp only [numberFormats, bind_error, mapM_error, formatPair_succeeds, formatPair_error,
      reduceCtorEq, and_false, exists_false, or_false]

end Territory

open scoped Standard

/-- A format that is written `NA` at home and does not say how abroad, one that is not dialled from
abroad, and one with a template of its own. -/
def mixedFormats : Element :=
  ⟨"territory", [("nationalPrefix", "0")],
    [.element "numberFormat" [("pattern", "(..)")] [.element "format" [] [.text "NA"]],
      .element "availableFormats" []
        [.element "numberFormat" [("pattern", "(...)")]
            [.element "format" [] [.text "$1"], .element "intlFormat" [] [.text "NA"]],
          .element "numberFormat" [("pattern", "(.+)"), ("nationalPrefixFormattingRule", "$NP$FG")]
            [.element "leadingDigits" [] [.text "[2 - 9]"], .element "format" [] [.text "$1"],
              .element "intlFormat" [] [.text "-$1"]]]]⟩

example : numberFormats mixedFormats (formatDefaults mixedFormats) = .ok
    { national :=
        [{ pattern := "(..)", format := "NA" }, { pattern := "(...)", format := "$1" },
          { pattern := "(.+)", format := "$1", leadingDigits := ["[2-9]"],
            prefixRule := some "0$\x7b1\x7d" }]
      international :=
        [{ pattern := "(..)", format := "NA" },
          { pattern := "(.+)", format := "-$1", leadingDigits := ["[2-9]"] }] } := by
  decide +kernel

end NumberingPlan

import NumberingPlan.Proofs.Territory.Compression

/-! The order of a territory's children. A record draws on searches through the whole territory and
on unions of what its children declare, so it does not matter in which order they stand. Formats
alone are kept in document order. Which of several faults is told may still depend on the order. -/

namespace NumberingPlan

open Fallible
open Xml (Element Node)

/-- The same attributes, and the same children in another order, in which those that are formats or
contain them come one after the other as before. -/
structure Rearranged (a b : Element) : Prop where
  attributes : ∀ name, a.value? name = b.value? name
  children : a.children.Perm b.children
  formats : a.children.filter (·.bears Vocabulary.numberFormat)
    = b.children.filter (·.bears Vocabulary.numberFormat)

namespace Rearranged

variable {a b : Element}

theorem symm (same : Rearranged a b) : Rearranged b a :=
  ⟨fun name => (same.attributes name).symm, same.children.symm, same.formats.symm⟩

section Attributes

theorem value_eq (same : Rearranged a b) (name : String) : a.value name = b.value name := by
  rw [Element.value, Element.value, same.attributes]

theorem has_eq (same : Rearranged a b) (name : String) : a.has name = b.has name := by
  rw [Element.has, Element.has, same.attributes]

theorem territoryAttributes_eq [PatternReader] (same : Rearranged a b) (id : String) :
    territoryAttributes id a = territoryAttributes id b := by
  simp only [territoryAttributes, parsingRules, same.attributes, same.value_eq, same.has_eq]

theorem formatDefaults_eq (same : Rearranged a b) :
    formatDefaults a = formatDefaults b := by
  simp only [formatDefaults, prefixRuleOf, carrierRuleOf, same.value_eq, same.has_eq]

end Attributes

section Searches

theorem numberFormats_eq [PatternReader] (same : Rearranged a b) (defaults : FormatDefaults) :
    numberFormats a defaults = numberFormats b defaults := by
  have found : a.findAll Vocabulary.numberFormat = b.findAll Vocabulary.numberFormat := by
    rw [a.findAll_eq_bearers (by decide), b.findAll_eq_bearers (by decide), same.formats]
  rw [numberFormats, numberFormats, found]

/-- A search for one element finds the same one, or equally many too many. -/
theorem singleElement_eq (same : Rearranged a b) (tag : String) :
    singleElement a tag = singleElement b tag := by
  have found := Element.findAll_perm same.children tag
  unfold singleElement
  generalize a.findAll tag = inA, b.findAll tag = inB at found
  match inA, inB, found with
  | [], _, found => rw [found.nil_eq]
  | [one], _, found => rw [found.singleton_eq]
  | first :: second :: rest, inB, found =>
    have count := found.length_eq
    match inB, count with
    | _ :: _ :: _, count => simp only [count]

theorem numberDesc_eq [PatternReader] (same : Rearranged a b) (tag : String)
    (general : Descriptor) :
    numberDesc a tag general = numberDesc b tag general := by
  rw [numberDesc, numberDesc, same.singleElement_eq]

theorem typedDescs_eq [PatternReader] (same : Rearranged a b) (general : Descriptor)
    (variant : Variant) :
    typedDescs a general variant = typedDescs b general variant := by
  simp only [typedDescs, same.numberDesc_eq]

end Searches

section General

theorem unions_perm {sets others : List LengthSet} (same : sets.Perm others) :
    LengthSet.unions sets = .unions others :=
  LengthSet.ofList_perm (same.flatMap_right LengthSet.toList)

/-- The children's lengths come together in any order, though a fault of one child may come before
that of another. -/
theorem standardLengths_of_ok (same : Rearranged a b) {lengths : LengthSet × LengthSet}
    (declared : standardLengths a = .ok lengths) :
    standardLengths b = .ok lengths := by
  obtain ⟨national, localOnly⟩ := lengths
  obtain ⟨pairs, run, rfl, rfl⟩ := standardLengths_ok.1 declared
  obtain ⟨others, later, order⟩ := mapM_perm (same.children.symm.filter _) run
  exact standardLengths_ok.2 ⟨others, later, unions_perm (order.symm.map _),
    unions_perm (order.symm.map _)⟩

theorem generalLengths_of_ok (same : Rearranged a b) {isShortNumber : Bool}
    {lengths : LengthSet × LengthSet} (declared : generalLengths a isShortNumber = .ok lengths) :
    generalLengths b isShortNumber = .ok lengths := by
  cases isShortNumber with
  | false => exact same.standardLengths_of_ok declared
  | true =>
    have short : shortNumberLengths a = shortNumberLengths b := by
      rw [shortNumberLengths, shortNumberLengths, same.singleElement_eq]
    simp only [generalLengths, if_true, short] at declared ⊢
    exact declared

theorem generalDesc_of_ok [PatternReader] (same : Rearranged a b) {isShortNumber : Bool}
    {general : Descriptor}
    (derived : generalDesc a isShortNumber = .ok general) :
    generalDesc b isShortNumber = .ok general := by
  have texts : generalPatternAndSample a = generalPatternAndSample b := by
    rw [generalPatternAndSample, generalPatternAndSample, same.singleElement_eq]
  unfold generalDesc at derived ⊢
  obtain ⟨parts, read, derived⟩ := bind_ok.1 derived
  obtain ⟨lengths, declared, derived⟩ := bind_ok.1 derived
  exact bind_ok.2 ⟨parts, texts ▸ read,
    bind_ok.2 ⟨lengths, same.generalLengths_of_ok declared, derived⟩⟩

end General

section Record

theorem resolveTerritory_of_ok [PatternReader] (same : Rearranged a b) {id : String}
    {variant : Variant}
    {territory : Territory} (resolved : resolveTerritory id a variant = .ok territory) :
    resolveTerritory id b variant = .ok territory := by
  obtain ⟨base, rules, general, types, attributes, formats, derived, described, made⟩ :=
    resolveTerritory_ok.1 resolved
  rw [same.territoryAttributes_eq] at attributes
  rw [same.formatDefaults_eq, same.numberFormats_eq] at formats
  rw [same.typedDescs_eq] at described
  exact resolveTerritory_ok.2 ⟨base, rules, general, types, attributes, formats,
    same.generalDesc_of_ok derived, described, made⟩

end Record

end Rearranged

/-- Children in another order make the same record, and make none when there was none. -/
theorem compileTerritory_rearranged [PatternReader] {a b : Element} (same : Rearranged a b)
    (id : String)
    (variant : Variant) (territory : Territory) :
    compileTerritory id a variant = .ok territory ↔
      compileTerritory id b variant = .ok territory := by
  rw [compileTerritory_ok, compileTerritory_ok]
  exact ⟨same.resolveTerritory_of_ok, same.symm.resolveTerritory_of_ok⟩

open scoped Standard

/-- A kind of number with its lengths, and a length that is local alone. -/
def leadingLine : Node :=
  .element "fixedLine" [] [.element "possibleLengths" [("national", "8"), ("localOnly", "6")] []]

/-- A format by itself, another kind of number, and a format inside a list of formats. -/
def formatsAround : List Node :=
  [.element "numberFormat" [("pattern", "(..)(.+)")] [.element "format" [] [.text "$1 $2"]],
    .element "mobile" [] [.element "possibleLengths" [("national", "[6-8]")] []],
    .element "availableFormats" [] [.element "numberFormat" [("pattern", "(.+)")]
      [.element "format" [] [.text "$1"], .element "intlFormat" [] [.text "NA"]]]]

def lineFirst : Element :=
  ⟨"territory", [("countryCode", "41"), ("nationalPrefix", "0")], leadingLine :: formatsAround⟩

def lineLast : Element :=
  ⟨"territory", [("nationalPrefix", "0"), ("countryCode", "41")], formatsAround ++ [leadingLine]⟩

theorem compileTerritory_lineLast :
    Rearranged lineFirst lineLast ∧ ∃ territory,
      compileTerritory "CH" lineFirst ⟨false, false⟩ = .ok territory ∧
        compileTerritory "CH" lineLast ⟨false, false⟩ = .ok territory := by
  have same : Rearranged lineFirst lineLast :=
    { attributes := fun name => by
        rcases eq_or_ne name "countryCode" with rfl | code
        · rfl
        · have other : (name == "countryCode") = false := by simpa using code
          simp only [Element.value?, lineFirst, lineLast, List.lookup_cons, other]
      children := (List.perm_append_singleton _ _).symm
      formats := by rfl }
  have ownAttributes : (territoryAttributes "CH" lineFirst).isOk = true := by decide +kernel
  have ownFormats : (numberFormats lineFirst (formatDefaults lineFirst)).isOk = true := by
    decide +kernel
  have ownLengths : (generalDesc lineFirst false >>= fun general =>
      typedDescs lineFirst general ⟨false, false⟩).isOk = true := by cbv
  obtain ⟨base, attributes⟩ := isOk_iff.1 ownAttributes
  obtain ⟨rules, formats⟩ := isOk_iff.1 ownFormats
  obtain ⟨types, lengths⟩ := isOk_iff.1 ownLengths
  obtain ⟨general, derived, described⟩ := bind_ok.1 lengths
  have compiled := compileTerritory_ok.2 (resolveTerritory_ok.2
    ⟨base, rules, general, types, attributes, formats, derived, described, rfl⟩)
  exact ⟨same, _, compiled, (compileTerritory_rearranged same "CH" ⟨false, false⟩ _).1 compiled⟩

end NumberingPlan

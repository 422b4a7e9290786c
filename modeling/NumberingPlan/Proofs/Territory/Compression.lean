import NumberingPlan.Proofs.Descriptor.Coverage
import NumberingPlan.Territory

/-! The lengths of a compiled record. A typed description stores nothing when its lengths are the
general ones or when it declares none, and the lengths themselves otherwise; together with the
general description they give back what the document declared. -/

namespace NumberingPlan

open Fallible
open Xml (Element)

section Record

variable [PatternReader]

theorem resolveTerritory_ok {id : String} {element : Element} {variant : Variant}
    {territory : Territory} :
    resolveTerritory id element variant = .ok territory ↔ ∃ base rules general types,
      territoryAttributes id element = .ok base ∧
        numberFormats element (formatDefaults element) = .ok rules ∧
        generalDesc element variant.isShortNumber = .ok general ∧
        typedDescs element general variant = .ok types ∧
        territory = base.withParts rules general types variant := by
  simp only [resolveTerritory, bind_ok, Except.ok.injEq, @eq_comm _ territory]
  constructor
  · rintro ⟨base, attributes, rules, formats, general, derived, types, described, same⟩
    exact ⟨base, rules, general, types, attributes, formats, derived, described, same⟩
  · rintro ⟨base, rules, general, types, attributes, formats, derived, described, same⟩
    exact ⟨base, attributes, rules, formats, general, derived, types, described, same⟩

theorem compileTerritory_ok {id : String} {element : Element} {variant : Variant}
    {territory : Territory} :
    compileTerritory id element variant = .ok territory ↔
      resolveTerritory id element variant = .ok territory :=
  mapError_ok

/-- The region is given, and the calling code is what the element's attribute says. -/
theorem territoryAttributes_named {id : String} {element : Element} {base : Territory}
    (attributes : territoryAttributes id element = .ok base) :
    base.id = id ∧
      readCountryCode (element.value Vocabulary.countryCode) = .ok base.countryCode := by
  obtain ⟨rules, -, attributes⟩ := bind_ok.1 attributes
  obtain ⟨countryCode, read, attributes⟩ := bind_ok.1 attributes
  obtain ⟨leadingDigits, -, attributes⟩ := bind_ok.1 attributes
  obtain ⟨internationalPrefix, -, attributes⟩ := bind_ok.1 attributes
  cases attributes
  exact ⟨rfl, read⟩

theorem compileTerritory_named {id : String} {element : Element} {variant : Variant}
    {territory : Territory} (compiled : compileTerritory id element variant = .ok territory) :
    territory.id = id ∧
      readCountryCode (element.value Vocabulary.countryCode) = .ok territory.countryCode := by
  obtain ⟨base, rules, general, types, attributes, -, -, -, rfl⟩ :=
    resolveTerritory_ok.1 (compileTerritory_ok.1 compiled)
  have named := territoryAttributes_named attributes
  exact named

/-- Under each kind of the record stands the description that its tag gives. -/
theorem lookup_of_typedDescs {element : Element} {general : Descriptor} {isShortNumber : Bool}
    {types : List (NumberType × Descriptor)}
    (described : typedDescs element general ⟨isShortNumber, false⟩ = .ok types)
    {kind : NumberType} (listed : kind ∈ NumberType.resolved isShortNumber) :
    ∃ desc, types.lookup kind = some desc ∧ numberDesc element kind.tag general = .ok desc := by
  simp only [typedDescs, Bool.false_eq_true, if_false, mapM_ok] at described
  generalize NumberType.resolved isShortNumber = kinds at described listed
  induction described with
  | nil => simp at listed
  | @cons first entry kinds types one _ ih =>
    obtain ⟨desc, given, same⟩ := bind_ok.1 one
    obtain rfl : (first, desc) = entry := by simpa using same
    by_cases here : kind = first
    · subst here
      exact ⟨desc, List.lookup_cons_self, given⟩
    · have later : kind ∈ kinds := by simpa [here] using listed
      have other : (kind == first) = false := by simpa using here
      simpa [List.lookup_cons, other] using ih later

end Record

section Lossless

/-- How the national lengths that an element declares are kept under the general lengths. -/
structure KeptUnder (general : LengthPair) (declared : LengthSet) (stored : LengthPair) : Prop where
  localOnly : stored.localOnly = .empty
  inherited : declared = .empty ∨ declared = general.national → stored.national = .empty
  explicit : declared ≠ .empty → declared ≠ general.national → stored.national = declared ∧
    (∀ x, x ∈ declared → x ∈ general.national) ∧ ∃ x, x ∈ general.national ∧ x ∉ declared
  effective : declared ≠ .empty → stored.effectiveNational general = declared
  present : stored.isAbsent = false

theorem KeptUnder.of_resolved {general stored : LengthPair} {declared : LengthSet}
    (resolved : resolveLengths declared .empty (some general) = .ok stored)
    (positive : ∀ x, x ∈ declared → 1 ≤ x) : KeptUnder general declared stored := by
  obtain ⟨covered, national, localOnly⟩ := resolveLengths_ok.1 resolved
  have ofInherited (same : declared = general.national) : stored.national = .empty := by
    rw [national, storedNational, if_pos same]
  have ofExplicit (differs : declared ≠ general.national) : stored.national = declared := by
    rw [national, storedNational, if_neg differs]
  constructor
  case localOnly =>
    rw [LengthSet.eq_empty_iff]
    simp [localOnly]
  case inherited =>
    rintro (none | same)
    · by_cases same : declared = general.national
      · exact ofInherited same
      · rw [ofExplicit same, none]
    · exact ofInherited same
  case explicit =>
    intro _ differs
    refine ⟨ofExplicit differs, covered.1, ?_⟩
    by_contra none
    simp only [not_exists, not_and, not_not] at none
    exact differs (LengthSet.ext fun x => ⟨covered.1 x, none x⟩)
  case effective =>
    intro some
    unfold LengthPair.effectiveNational LengthPair.inherits
    by_cases same : declared = general.national
    · rw [ofInherited same, LengthSet.isEmpty_iff.2 rfl, if_pos rfl, same]
    · have full : declared.isEmpty ≠ true := by rwa [ne_eq, LengthSet.isEmpty_iff]
      rw [ofExplicit same, if_neg full]
  case present =>
    -- The marker is no length, and what is stored has been declared.
    by_contra marked
    have holds : LengthPair.absentLength ∈ stored.national := by
      simp only [LengthPair.isAbsent, Bool.not_eq_false, beq_iff_eq] at marked
      simp [LengthSet.mem_def, marked]
    have among : LengthPair.absentLength ∈ declared :=
      storedNational_subset (national ▸ holds : _ ∈ storedNational declared (some general))
    exact absurd (positive _ among) (by decide)

/-- A kind of the record either has no element and the absent marker, or one element whose
declared national lengths can be read off the stored ones and the general ones. -/
theorem typed_lengths_lossless [PatternReader] {id : String} {element : Element}
    {isShortNumber : Bool}
    {territory : Territory}
    (compiled : compileTerritory id element ⟨isShortNumber, false⟩ = .ok territory)
    {kind : NumberType} (listed : kind ∈ NumberType.resolved isShortNumber) :
    (element.findAll kind.tag = [] ∧ territory.typed kind = some .absent ∧
      Descriptor.absent.lengths.national.toList = [-1]) ∨
    ∃ inner desc declared, element.findAll kind.tag = [inner] ∧
      territory.typed kind = some desc ∧
      (∀ node ∈ inner.findAll Vocabulary.possibleLengths,
        ∃ set, readLengths (node.value Vocabulary.national) = .ok set) ∧
      (∀ x, x ∈ declared ↔ DeclaresNational inner x) ∧
      KeptUnder territory.general.lengths declared desc.lengths := by
  obtain ⟨base, rules, general, types, -, -, -, described, rfl⟩ :=
    resolveTerritory_ok.1 (compileTerritory_ok.1 compiled)
  obtain ⟨desc, found, given⟩ := lookup_of_typedDescs described listed
  rcases numberDesc_ok.1 given with ⟨missing, rfl⟩ |
    ⟨inner, declared, localOnly, single, collected, resolved, -⟩
  · exact .inl ⟨missing, found, LengthPair.absent_national⟩
  · have members := mem_collected_national collected
    refine .inr ⟨inner, desc, declared, single, found, fun node inside => ?_, members, ?_⟩
    · obtain ⟨⟨set, _⟩, read⟩ := collectLengths_succeeds.1 ⟨_, collected⟩ node inside
      exact ⟨set, (nodeLengths_ok.1 read).1⟩
    · exact .of_resolved resolved fun x member => ((members x).1 member).positive

open scoped Standard

/-- A territory whose general lengths are wider than those of either of its kinds. -/
def twoLines : Element :=
  ⟨"territory", [("countryCode", "41")],
    [.element "fixedLine" []
      [.element "possibleLengths" [("national", "[6-8]"), ("localOnly", "5")] []],
    .element "mobile" [] [.element "possibleLengths" [("national", "7")] []]]⟩

theorem twoLines_mobile_lossless :
    ∃ territory, compileTerritory "CH" twoLines ⟨false, false⟩ = .ok territory ∧
      NumberType.mobile ∈ NumberType.resolved false ∧
      ((twoLines.findAll NumberType.mobile.tag = [] ∧
        territory.typed .mobile = some .absent ∧
        Descriptor.absent.lengths.national.toList = [-1]) ∨
      ∃ inner desc declared, twoLines.findAll NumberType.mobile.tag = [inner] ∧
        territory.typed .mobile = some desc ∧
        (∀ node ∈ inner.findAll Vocabulary.possibleLengths,
          ∃ set, readLengths (node.value Vocabulary.national) = .ok set) ∧
        (∀ x, x ∈ declared ↔ DeclaresNational inner x) ∧
        KeptUnder territory.general.lengths declared desc.lengths) := by
  have compiles : (compileTerritory "CH" twoLines ⟨false, false⟩).isOk = true := by cbv
  have listed : NumberType.mobile ∈ NumberType.resolved false := by decide
  obtain ⟨territory, compiled⟩ := isOk_iff.1 compiles
  exact ⟨territory, compiled, listed, typed_lengths_lossless compiled listed⟩

end Lossless

end NumberingPlan

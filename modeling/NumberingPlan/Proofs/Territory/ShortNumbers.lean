import NumberingPlan.Proofs.Lookup
import NumberingPlan.Proofs.Territory.Compression

/-! Records of short numbers. The element for short codes is read twice, as the source of the
general lengths and as a kind of number under them, so that its own lengths are never written out;
the other kinds are held to them, and the kinds of ordinary records are left open. -/

namespace NumberingPlan

open Fallible
open Xml (Element)

/-- What a record of short numbers holds, by the short codes of its element. -/
structure FixedByShortCode (element : Element) (territory : Territory) : Prop where
  single : (element.findAll Vocabulary.shortCode).length ≤ 1
  localOnly : territory.general.lengths.localOnly = .empty
  national : ∀ x, x ∈ territory.general.lengths.national ↔
    ∃ code ∈ element.findAll Vocabulary.shortCode, DeclaresNational code x
  shortCode : ∃ desc, territory.typed .shortCode = some desc ∧ desc.lengths.localOnly = .empty ∧
    desc.lengths.national.toList = if element.findAll Vocabulary.shortCode = [] then [-1] else []
  readable : ∀ kind ∈ NumberType.short, ∀ inner ∈ element.findAll kind.tag,
    ∀ node ∈ inner.findAll Vocabulary.possibleLengths, LengthsReadable node
  covered : ∀ kind ∈ NumberType.short, ∀ inner ∈ element.findAll kind.tag,
    ∀ x, DeclaresNational inner x →
      ∃ code ∈ element.findAll Vocabulary.shortCode, DeclaresNational code x
  undeclared : element.findAll Vocabulary.shortCode = [] → ∀ kind ∈ NumberType.short,
    ∀ inner ∈ element.findAll kind.tag, ∀ x, ¬ DeclaresNational inner x
  unresolved : ∀ kind, kind ∉ NumberType.short → territory.typed kind = none
  notSame : territory.sameMobileAndFixedLine = false

section Parts

theorem shortNumberLengths_ok {territory : Element} {national localOnly : LengthSet} :
    shortNumberLengths territory = .ok (national, localOnly) ↔
      (territory.findAll Vocabulary.shortCode = [] ∧ national = .empty ∧ localOnly = .empty) ∨
      ∃ code, territory.findAll Vocabulary.shortCode = [code] ∧
        collectLengths code = .ok (national, localOnly) ∧ localOnly = .empty := by
  unfold shortNumberLengths
  rw [singleElement_bind_ok]
  constructor
  · rintro (⟨missing, read⟩ | ⟨code, single, read⟩)
    · exact .inl ⟨missing, by simpa [eq_comm] using read⟩
    · obtain ⟨⟨own, ownLocal⟩, collected, read⟩ := bind_ok.1 read
      dsimp only at read
      split at read
      · next bare =>
        obtain ⟨rfl, rfl⟩ : own = national ∧ ownLocal = localOnly := by simpa using read
        exact .inr ⟨code, single, collected, LengthSet.isEmpty_iff.1 bare⟩
      · cases read
  · rintro (⟨missing, rfl, rfl⟩ | ⟨code, single, collected, rfl⟩)
    · exact .inl ⟨missing, rfl⟩
    · exact .inr ⟨code, single, bind_ok.2 ⟨_, collected, rfl⟩⟩

/-- The short codes of an element are read, and their national lengths are all there are. -/
theorem mem_shortNumberLengths {territory : Element} {national localOnly : LengthSet}
    (declared : shortNumberLengths territory = .ok (national, localOnly)) (x : Int) :
    x ∈ national ↔ ∃ code ∈ territory.findAll Vocabulary.shortCode, DeclaresNational code x := by
  rcases shortNumberLengths_ok.1 declared with ⟨missing, rfl, -⟩ | ⟨code, single, collected, -⟩
  · simp [missing]
  · simp [single, mem_collected_national collected]

/-- The kinds of a record are those that are resolved, in their order. -/
theorem kinds_of_typedDescs [PatternReader] {element : Element} {general : Descriptor}
    {isShortNumber : Bool}
    {types : List (NumberType × Descriptor)}
    (described : typedDescs element general ⟨isShortNumber, false⟩ = .ok types) :
    types.map (·.1) = NumberType.resolved isShortNumber := by
  simp only [typedDescs, Bool.false_eq_true, if_false, mapM_ok] at described
  generalize NumberType.resolved isShortNumber = kinds at described ⊢
  induction described with
  | nil => rfl
  | cons one _ ih =>
    obtain ⟨desc, -, same⟩ := bind_ok.1 one
    cases same
    rw [List.map_cons, ih]

theorem lookup_unresolved [PatternReader] {element : Element} {general : Descriptor}
    {isShortNumber : Bool}
    {types : List (NumberType × Descriptor)}
    (described : typedDescs element general ⟨isShortNumber, false⟩ = .ok types)
    {kind : NumberType} (unlisted : kind ∉ NumberType.resolved isShortNumber) :
    types.lookup kind = none := by
  rw [← kinds_of_typedDescs described] at unlisted
  exact lookup_of_notMem unlisted

end Parts

section Record

/-- The lengths of the short codes are the general ones, so that none is stored with them. -/
theorem shortCode_lengths [PatternReader] {territory : Element} {general desc : Descriptor}
    (derived : generalDesc territory true = .ok general)
    (described : numberDesc territory Vocabulary.shortCode general = .ok desc) :
    desc.lengths.localOnly = .empty ∧ desc.lengths.national.toList =
      if territory.findAll Vocabulary.shortCode = [] then [-1] else [] := by
  obtain ⟨-, national, localOnly, declared, same, -⟩ := generalDesc_parts derived
  rcases numberDesc_ok.1 described with ⟨missing, rfl⟩ |
    ⟨code, own, ownLocal, single, collected, resolved, -⟩
  · rw [if_pos missing]
    exact ⟨rfl, LengthPair.absent_national⟩
  · have kept := KeptUnder.of_resolved resolved fun x member =>
      ((mem_collected_national collected x).1 member).positive
    have inherits : own = general.lengths.national := LengthSet.ext fun x => by
      rw [same, mem_shortNumberLengths declared, mem_collected_national collected]
      simp [single]
    rw [kept.inherited (.inr inherits), if_neg (by simp [single])]
    exact ⟨kept.localOnly, rfl⟩

/-- What a kind declares was read and is among the general lengths. -/
theorem numberDesc_covered [PatternReader] {territory inner : Element} {tag : String}
    {general desc : Descriptor}
    (described : numberDesc territory tag general = .ok desc)
    (found : inner ∈ territory.findAll tag) :
    (∀ node ∈ inner.findAll Vocabulary.possibleLengths, LengthsReadable node) ∧
      ∀ x, DeclaresNational inner x → x ∈ general.lengths.national := by
  rcases numberDesc_ok.1 described with ⟨missing, -⟩ |
    ⟨own, national, localOnly, single, collected, resolved, -⟩
  · simp [missing] at found
  · obtain rfl : inner = own := by simpa [single] using found
    refine ⟨fun node => collectLengths_readable collected, fun x declares => ?_⟩
    exact (resolveLengths_ok.1 resolved).1.1 x ((mem_collected_national collected x).2 declares)

/-- The short codes of a record fix its lengths: they give the general ones, store none themselves,
and hold every other kind to theirs. -/
theorem compileTerritory_fixedByShortCode [PatternReader] {id : String} {element : Element}
    {territory : Territory}
    (compiled : compileTerritory id element ⟨true, false⟩ = .ok territory) :
    FixedByShortCode element territory := by
  obtain ⟨base, rules, general, types, -, -, derived, described, rfl⟩ :=
    resolveTerritory_ok.1 (compileTerritory_ok.1 compiled)
  obtain ⟨-, national, localOnly, declared, same, members⟩ := generalDesc_parts derived
  have ofNational (x : Int) : x ∈ general.lengths.national ↔
      ∃ code ∈ element.findAll Vocabulary.shortCode, DeclaresNational code x := by
    rw [same, mem_shortNumberLengths declared]
  have ofKind {kind : NumberType} (listed : kind ∈ NumberType.short) {inner : Element}
      (found : inner ∈ element.findAll kind.tag) :
      (∀ node ∈ inner.findAll Vocabulary.possibleLengths, LengthsReadable node) ∧
        ∀ x, DeclaresNational inner x → x ∈ general.lengths.national := by
    obtain ⟨desc, -, given⟩ := lookup_of_typedDescs described listed
    exact numberDesc_covered given found
  constructor
  case single =>
    rcases shortNumberLengths_ok.1 declared with ⟨missing, -⟩ | ⟨code, single, -⟩
    · simp [missing]
    · simp [single]
  case localOnly =>
    have bare : localOnly = .empty := by
      rcases shortNumberLengths_ok.1 declared with ⟨-, -, bare⟩ | ⟨code, -, -, bare⟩ <;> exact bare
    rw [LengthSet.eq_empty_iff]
    intro x member
    exact LengthSet.not_mem_empty x (bare ▸ ((members x).1 member).1)
  case national => exact ofNational
  case shortCode =>
    have listed : NumberType.shortCode ∈ NumberType.resolved true := by decide
    obtain ⟨desc, found, given⟩ := lookup_of_typedDescs described listed
    exact ⟨desc, found, shortCode_lengths derived given⟩
  case readable => exact fun kind listed inner found => (ofKind listed found).1
  case covered =>
    exact fun kind listed inner found x declares =>
      (ofNational x).1 ((ofKind listed found).2 x declares)
  case undeclared =>
    intro missing kind listed inner found x declares
    obtain ⟨code, among, -⟩ := (ofNational x).1 ((ofKind listed found).2 x declares)
    simp [missing] at among
  case unresolved => exact fun kind unlisted => lookup_unresolved described unlisted
  case notSame => simp [Territory.withParts]

open scoped Standard

/-- Short codes inside another element, and a kind with some of their lengths. -/
def nestedShortCode : Element :=
  ⟨"territory", [("countryCode", "41")],
    [.element "emergency" []
        [.element "possibleLengths" [("national", "3"), ("localOnly", "9")] []],
      .element "references" [] [.element "shortCode" []
        [.element "possibleLengths" [("national", "[3-5]")] [],
          .element "possibleLengths" [("national", "5,6")] []]]]⟩

theorem compileTerritory_nestedShortCode :
    ∃ territory, compileTerritory "CH" nestedShortCode ⟨true, false⟩ = .ok territory ∧
      territory.general.lengths.national.toList = [3, 4, 5, 6] ∧
      FixedByShortCode nestedShortCode territory := by
  have compiles : (compileTerritory "CH" nestedShortCode ⟨true, false⟩).map
      (·.general.lengths.national.toList) = .ok [3, 4, 5, 6] := by cbv
  obtain ⟨territory, compiled, lengths⟩ := map_ok.1 compiles
  exact ⟨territory, compiled, lengths, compileTerritory_fixedByShortCode compiled⟩

end Record

end NumberingPlan

import NumberingPlan.Proofs.Descriptor.Lengths
import NumberingPlan.Standard

/-! Descriptions against the general one. The general lengths of an ordinary record gather what
its children declare, so a typed description below one of those children is always covered; only
its pattern can still be refused. -/

namespace NumberingPlan

open Fallible
open Xml (Element)

section Parts

theorem singleElement_ok {territory : Element} {tag : String} {found : Option Element} :
    singleElement territory tag = .ok found ↔ territory.findAll tag = found.toList := by
  unfold singleElement
  split
  · next none => cases found <;> simp [none]
  · next element one => cases found <;> simp [one]
  · next several notNone notOne =>
    cases found with
    | none => simpa using notNone
    | some element => simpa using notOne element

/-- What is made of an element that may be missing, but stands there once at most. -/
theorem singleElement_bind_ok {α : Type} {territory : Element} {tag : String}
    {next : Option Element → Except Fault α} {made : α} :
    (singleElement territory tag >>= next) = .ok made ↔
      (territory.findAll tag = [] ∧ next none = .ok made) ∨
      ∃ own, territory.findAll tag = [own] ∧ next (some own) = .ok made := by
  simp only [bind_ok, singleElement_ok, Option.exists, Option.toList_none, Option.toList_some]

end Parts

section Patterns

variable [PatternReader]

theorem validPattern_rejected {text : String} {rejection : Rejection}
    (refused : validPattern text = .error (.rejected rejection)) :
    rejection.code = .patternInvalid ∧ rejection.input = text := by
  obtain ⟨fault, -, told⟩ := mapError_error.1 refused
  cases fault with
  | malformed words =>
    cases told
    exact ⟨rfl, rfl⟩
  | stopped stop => cases told

/-- Of all that stands inside an element only its first pattern can be at fault. -/
theorem readPatternAndSample_error {element : Element} {fault : Fault} :
    readPatternAndSample element = .error fault ↔ ∃ first rest,
      element.findAll Vocabulary.nationalNumberPattern = first :: rest ∧
        validCompactPattern first.text = .error fault := by
  unfold readPatternAndSample
  rw [bind_error]
  simp only [reduceCtorEq, and_false, exists_false, or_false]
  cases element.findAll Vocabulary.nationalNumberPattern with
  | nil => simp [pure, Except.pure]
  | cons first rest => simp [map_error]

end Patterns

section Typed

variable [PatternReader]

theorem numberDesc_ok {territory : Element} {tag : String} {general desc : Descriptor} :
    numberDesc territory tag general = .ok desc ↔
      (territory.findAll tag = [] ∧ desc = .absent) ∨
        ∃ element national localOnly, territory.findAll tag = [element] ∧
          collectLengths element = .ok (national, localOnly) ∧
          resolveLengths national .empty (some general.lengths) = .ok desc.lengths ∧
          readPatternAndSample element = .ok (desc.pattern, desc.sample) := by
  unfold numberDesc
  rw [singleElement_bind_ok]
  constructor
  · rintro (⟨missing, described⟩ | ⟨element, single, described⟩)
    · exact .inl ⟨missing, by simpa using described.symm⟩
    · obtain ⟨⟨national, localOnly⟩, collected, described⟩ := bind_ok.1 described
      obtain ⟨lengths, resolved, described⟩ := bind_ok.1 described
      obtain ⟨⟨pattern, sample⟩, read, described⟩ := bind_ok.1 described
      obtain rfl : ⟨pattern, sample, lengths⟩ = desc := by simpa using described
      exact .inr ⟨element, national, localOnly, single, collected, resolved, read⟩
  · rintro (⟨missing, rfl⟩ | ⟨element, national, localOnly, single, collected, resolved, read⟩)
    · exact .inl ⟨missing, rfl⟩
    · refine .inr ⟨element, single, ?_⟩
      exact bind_ok.2 ⟨_, collected, bind_ok.2 ⟨_, resolved, bind_ok.2 ⟨_, read, rfl⟩⟩⟩

theorem numberDesc_of_resolved {territory element : Element} {tag : String}
    {general : Descriptor} {national localOnly : LengthSet} {lengths : LengthPair}
    (single : territory.findAll tag = [element])
    (collected : collectLengths element = .ok (national, localOnly))
    (resolved : resolveLengths national .empty (some general.lengths) = .ok lengths) :
    numberDesc territory tag general = readPatternAndSample element >>= fun parts =>
      .ok ⟨parts.1, parts.2, lengths⟩ := by
  have found : singleElement territory tag = .ok (some element) := singleElement_ok.2 single
  simp only [numberDesc, found, collected, resolved, ok_bind]

end Typed

section Declared

theorem standardLengths_ok {territory : Element} {national localOnly : LengthSet} :
    standardLengths territory = .ok (national, localOnly) ↔ ∃ pairs,
      (territory.children.filter (·.tag != Vocabulary.noInternationalDialling)).mapM
          collectLengths = .ok pairs ∧
        national = .unions (pairs.map (·.1)) ∧ localOnly = .unions (pairs.map (·.2)) := by
  simp only [standardLengths, bind_ok, Except.ok.injEq, Prod.mk.injEq, @eq_comm _ national,
    @eq_comm _ localOnly]

theorem standardLengths_reads {territory child : Element} {lengths : LengthSet × LengthSet}
    (declared : standardLengths territory = .ok lengths) (direct : child ∈ territory.children)
    (ordinary : child.tag ≠ Vocabulary.noInternationalDialling) :
    ∃ own, collectLengths child = .ok own := by
  obtain ⟨pairs, run, -⟩ := standardLengths_ok.1 declared
  exact mapM_succeeds.1 ⟨pairs, run⟩ child (by simpa using ⟨direct, ordinary⟩)

theorem mem_standardLengths {territory : Element} {national localOnly : LengthSet}
    (declared : standardLengths territory = .ok (national, localOnly)) (x : Int) :
    (x ∈ national ↔ ∃ child ∈ territory.children,
      child.tag ≠ Vocabulary.noInternationalDialling ∧ DeclaresNational child x) ∧
    (x ∈ localOnly ↔ ∃ child ∈ territory.children,
      child.tag ≠ Vocabulary.noInternationalDialling ∧ DeclaresLocalOnly child x) := by
  have own {child : Element} (direct : child ∈ territory.children)
      (ordinary : child.tag ≠ Vocabulary.noInternationalDialling) :
      ((∃ pair, collectLengths child = .ok pair ∧ x ∈ pair.1) ↔ DeclaresNational child x) ∧
        ((∃ pair, collectLengths child = .ok pair ∧ x ∈ pair.2) ↔ DeclaresLocalOnly child x) := by
    obtain ⟨⟨national, localOnly⟩, collected⟩ := standardLengths_reads declared direct ordinary
    rw [← mem_collected_national collected, ← mem_collected_localOnly collected]
    simp [collected]
  obtain ⟨pairs, run, rfl, rfl⟩ := standardLengths_ok.1 declared
  simp only [LengthSet.mem_unions_map, exists_mem_of_mapM run, List.mem_filter, bne_iff_ne,
    and_assoc]
  constructor
  · exact exists_congr fun child => and_congr_right fun direct => and_congr_right fun ordinary =>
      (own direct ordinary).1
  · exact exists_congr fun child => and_congr_right fun direct => and_congr_right fun ordinary =>
      (own direct ordinary).2

end Declared

section Derived

variable [PatternReader]

/-- The general description of a document is there once at most, and without lengths. -/
theorem generalPatternAndSample_ok {territory : Element} {pattern sample : Option String} :
    generalPatternAndSample territory = .ok (pattern, sample) ↔
      (territory.findAll Vocabulary.generalDesc = [] ∧ pattern = none ∧ sample = none) ∨
      ∃ own, territory.findAll Vocabulary.generalDesc = [own] ∧
        own.findAll Vocabulary.possibleLengths = [] ∧
        readPatternAndSample own = .ok (pattern, sample) := by
  unfold generalPatternAndSample
  rw [singleElement_bind_ok]
  constructor
  · rintro (⟨missing, read⟩ | ⟨own, single, read⟩)
    · exact .inl ⟨missing, by simpa [eq_comm] using read⟩
    · obtain ⟨⟨national, localOnly⟩, collected, read⟩ := bind_ok.1 read
      dsimp only at read
      split at read
      · next bare =>
        rw [Bool.and_eq_true, LengthSet.isEmpty_iff, collected_national_empty collected] at bare
        exact .inr ⟨own, single, bare.1, read⟩
      · cases read
  · rintro (⟨missing, rfl, rfl⟩ | ⟨own, single, bare, read⟩)
    · exact .inl ⟨missing, rfl⟩
    · exact .inr ⟨own, single, bind_ok.2 ⟨_, collectLengths_of_bare bare, read⟩⟩

/-- The general description has the pattern and the sample that stand there, and the lengths of the
record, of which those that are national are not local-only. -/
theorem generalDesc_parts {territory : Element} {isShortNumber : Bool} {general : Descriptor}
    (derived : generalDesc territory isShortNumber = .ok general) :
    generalPatternAndSample territory = .ok (general.pattern, general.sample) ∧
      ∃ national localOnly, generalLengths territory isShortNumber = .ok (national, localOnly) ∧
        general.lengths.national = national ∧
          ∀ x, x ∈ general.lengths.localOnly ↔ x ∈ localOnly ∧ x ∉ national := by
  unfold generalDesc at derived
  obtain ⟨⟨pattern, sample⟩, read, derived⟩ := bind_ok.1 derived
  obtain ⟨⟨national, localOnly⟩, declared, derived⟩ := bind_ok.1 derived
  obtain ⟨lengths, resolved, derived⟩ := bind_ok.1 derived
  obtain rfl : ⟨pattern, sample, lengths⟩ = general := by simpa using derived
  exact ⟨read, national, localOnly, declared, (resolveLengths_ok.1 resolved).2⟩

/-- Every child that is no mark against dialling from abroad was read, and its national lengths
are general ones. -/
theorem general_covers_child {territory child : Element} {general : Descriptor}
    (derived : generalDesc territory false = .ok general) (direct : child ∈ territory.children)
    (ordinary : child.tag ≠ Vocabulary.noInternationalDialling) :
    (∃ lengths, collectLengths child = .ok lengths) ∧
      ∀ x, DeclaresNational child x → x ∈ general.lengths.national := by
  obtain ⟨-, national, localOnly, declared, same, -⟩ := generalDesc_parts derived
  refine ⟨standardLengths_reads declared direct ordinary, fun x declares => ?_⟩
  rw [same, (mem_standardLengths declared x).1]
  exact ⟨child, direct, ordinary, declares⟩

/-- A description below an ordinary child fails with the fault of its own first pattern or not at
all: its lengths were read and gathered before. -/
theorem numberDesc_fails_only_by_pattern {territory child element : Element} {tag : String}
    {general : Descriptor} (derived : generalDesc territory false = .ok general)
    (single : territory.findAll tag = [element]) (direct : child ∈ territory.children)
    (inside : child.Contains element)
    (ordinary : child.tag ≠ Vocabulary.noInternationalDialling) {fault : Fault}
    (failed : numberDesc territory tag general = .error fault) :
    ∃ first rest, element.findAll Vocabulary.nationalNumberPattern = first :: rest ∧
      validCompactPattern first.text = .error fault ∧
        ∀ rejection, fault = .rejected rejection → rejection.code = .patternInvalid ∧
          rejection.input = String.ofList (Text.dropBlanks first.text.toList) := by
  obtain ⟨⟨_, collectedChild⟩, covers⟩ := general_covers_child derived direct ordinary
  obtain ⟨⟨national, localOnly⟩, collected⟩ := collectLengths_of_contains inside collectedChild
  have covered : Covered national .empty (some general.lengths) := by
    refine ⟨fun x member => covers x ?_, fun x member => absurd member (LengthSet.not_mem_empty x)⟩
    exact ((mem_collected_national collected x).1 member).of_contains inside
  have resolved : resolveLengths national .empty (some general.lengths) = .ok
      ⟨storedNational national (some general.lengths), .empty, by simp⟩ :=
    resolveLengths_ok.2 ⟨covered, rfl, by simp⟩
  rw [numberDesc_of_resolved single collected resolved, bind_error] at failed
  have unreadable : readPatternAndSample element = .error fault := by simpa using failed
  obtain ⟨first, rest, found, refused⟩ := readPatternAndSample_error.1 unreadable
  refine ⟨first, rest, found, refused, ?_⟩
  rintro rejection rfl
  exact validPattern_rejected refused

end Derived

open scoped Standard

/-- A kind of number with a pattern that is not closed. -/
def unclosedMobile : Element :=
  ⟨"mobile", [], [.element "possibleLengths" [("national", "7")] [],
    .element "nationalNumberPattern" [] [.text "( 7"]]⟩

/-- Numbers of a fixed line, with mobile ones among them. -/
def nestingLine : Element :=
  ⟨"fixedLine", [], [.element "possibleLengths" [("national", "[6-8]")] [],
    .element unclosedMobile.tag unclosedMobile.attributes unclosedMobile.content]⟩

def nestingTerritory : Element :=
  ⟨"territory", [], [.element nestingLine.tag nestingLine.attributes nestingLine.content]⟩

theorem numberDesc_unclosedMobile :
    ∃ general fault, generalDesc nestingTerritory false = .ok general ∧
      nestingTerritory.findAll "mobile" = [unclosedMobile] ∧
      nestingLine ∈ nestingTerritory.children ∧ nestingLine.Contains unclosedMobile ∧
      nestingLine.tag ≠ Vocabulary.noInternationalDialling ∧
      numberDesc nestingTerritory "mobile" general = .error fault ∧
      ∃ first rest, unclosedMobile.findAll Vocabulary.nationalNumberPattern = first :: rest ∧
        validCompactPattern first.text = .error fault ∧
          ∀ rejection, fault = .rejected rejection → rejection.code = .patternInvalid ∧
            rejection.input = String.ofList (Text.dropBlanks first.text.toList) := by
  have single : nestingTerritory.findAll "mobile" = [unclosedMobile] := rfl
  have direct : nestingLine ∈ nestingTerritory.children := .head _
  have inside : nestingLine.Contains unclosedMobile := .inr (.tail _ (.head _))
  have ordinary : nestingLine.tag ≠ Vocabulary.noInternationalDialling := by decide
  have derives : (generalDesc nestingTerritory false).isOk = true := by cbv
  have unreadable : (readPatternAndSample unclosedMobile).isOk = false := by decide +kernel
  obtain ⟨general, derived⟩ := isOk_iff.1 derives
  cases failed : numberDesc nestingTerritory "mobile" general with
  | ok desc =>
    rcases numberDesc_ok.1 failed with ⟨absent, -⟩ | ⟨element, _, _, one, -, -, read⟩
    · simp [single] at absent
    · obtain rfl : unclosedMobile = element := by simpa [single] using one
      rw [read] at unreadable
      cases unreadable
  | error fault =>
    exact ⟨general, fault, derived, single, direct, inside, ordinary, failed,
      numberDesc_fails_only_by_pattern derived single direct inside ordinary failed⟩

end NumberingPlan

import NumberingPlan.Proofs.Territory.Patterns

/-! The general description of an ordinary record. Its lengths are an exact sum of what the
territory's children declare, at any depth below them, and its texts come from the one element that
is named for it, which declares no lengths itself. -/

namespace NumberingPlan

open Fallible
open Xml (Element Node)

/-- What the general description of an ordinary record gathers from a territory. -/
structure Gathers (territory : Element) (general : Descriptor) : Prop where
  readable : ∀ child ∈ territory.children, child.tag ≠ Vocabulary.noInternationalDialling →
    ∀ node ∈ child.findAll Vocabulary.possibleLengths, LengthsReadable node
  national : ∀ x, x ∈ general.lengths.national ↔ ∃ child ∈ territory.children,
    child.tag ≠ Vocabulary.noInternationalDialling ∧ DeclaresNational child x
  localOnly : ∀ x, x ∈ general.lengths.localOnly ↔ (∃ child ∈ territory.children,
    child.tag ≠ Vocabulary.noInternationalDialling ∧ DeclaresLocalOnly child x) ∧
      x ∉ general.lengths.national
  ascending : general.lengths.national.toList.Pairwise (· < ·) ∧
    general.lengths.localOnly.toList.Pairwise (· < ·)
  positive : ∀ x, x ∈ general.lengths.national ∨ x ∈ general.lengths.localOnly → 1 ≤ x
  texts : (territory.findAll Vocabulary.generalDesc = [] ∧ general.pattern = none ∧
      general.sample = none) ∨
    ∃ own, territory.findAll Vocabulary.generalDesc = [own] ∧
      own.findAll Vocabulary.possibleLengths = [] ∧
      general.pattern = (own.findAll Vocabulary.nationalNumberPattern).head?.map
        (fun first => withoutBlanks first.text) ∧
      general.sample = (own.findAll Vocabulary.exampleNumber).head?.map Element.text

/-- A local-only length that some child gives as a national one is dropped, whichever child it is;
nothing else is lost and nothing is added. -/
theorem generalDesc_gathers [PatternReader] {territory : Element} {general : Descriptor}
    (derived : generalDesc territory false = .ok general) : Gathers territory general := by
  obtain ⟨read, national, localOnly, declared, same, members⟩ := generalDesc_parts derived
  have declares := mem_standardLengths declared
  have ofNational (x : Int) : x ∈ general.lengths.national ↔ ∃ child ∈ territory.children,
      child.tag ≠ Vocabulary.noInternationalDialling ∧ DeclaresNational child x := by
    rw [same, (declares x).1]
  have ofLocal (x : Int) : x ∈ general.lengths.localOnly ↔ (∃ child ∈ territory.children,
      child.tag ≠ Vocabulary.noInternationalDialling ∧ DeclaresLocalOnly child x) ∧
        x ∉ general.lengths.national := by
    rw [members, (declares x).2, same]
  constructor
  case readable =>
    intro child direct ordinary node found
    obtain ⟨own, collected⟩ := standardLengths_reads declared direct ordinary
    exact collectLengths_readable collected found
  case national => exact ofNational
  case localOnly => exact ofLocal
  case ascending => exact ⟨general.lengths.national.sorted, general.lengths.localOnly.sorted⟩
  case positive =>
    rintro x (member | member)
    · obtain ⟨_, -, -, given⟩ := (ofNational x).1 member
      exact given.positive
    · obtain ⟨⟨_, -, -, given⟩, -⟩ := (ofLocal x).1 member
      exact given.positive
  case texts =>
    rcases generalPatternAndSample_ok.1 read with missing | ⟨own, single, bare, texts⟩
    · exact .inl missing
    · obtain ⟨⟨pattern, -⟩, sample⟩ := readPatternAndSample_ok.1 texts
      exact .inr ⟨own, single, bare, pattern, sample⟩

open scoped Standard

/-- A length that is local-only on one line and national on another that lies inside a third, and
one more below a mark against dialling from abroad. -/
def acrossLines : Element :=
  ⟨"territory", [("countryCode", "1")],
    [.element "generalDesc" [] [.element "nationalNumberPattern" [] [.text " [1-9]\\d+ "]],
      .element "fixedLine" []
        [.element "possibleLengths" [("national", "10"), ("localOnly", "5,7")] []],
      .element "mobile" [] [.element "pager" []
        [.element "possibleLengths" [("national", "[7-9]")] []]],
      .element "noInternationalDialling" [] [.element "possibleLengths" [("national", "12")] []]]⟩

theorem generalDesc_acrossLines :
    ∃ general, generalDesc acrossLines false = .ok general ∧
      general.lengths.national.toList = [7, 8, 9, 10] ∧ general.lengths.localOnly.toList = [5] ∧
      Gathers acrossLines general := by
  have derives : (generalDesc acrossLines false).map (fun general =>
      (general.lengths.national.toList, general.lengths.localOnly.toList)) =
        .ok ([7, 8, 9, 10], [5]) := by cbv
  obtain ⟨general, derived, lengths⟩ := map_ok.1 derives
  obtain ⟨national, localOnly⟩ := Prod.mk.inj lengths
  exact ⟨general, derived, national, localOnly, generalDesc_gathers derived⟩

end NumberingPlan

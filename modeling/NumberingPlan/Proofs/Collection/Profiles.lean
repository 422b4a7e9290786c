import NumberingPlan.Proofs.Collection.Shared
import NumberingPlan.Proofs.Territory.Patterns

/-! What a profile leaves of a build. A profile works on finished records alone: it hides no fault
of the document, it keeps what it does not own, and the patterns that were checked are still there
or gone, but never others. A profile that contradicts itself is refused before any work begins. -/

namespace NumberingPlan

open Fallible

/-- What no profile takes from a record. -/
structure Territory.SameCore (before after : Territory) : Prop where
  id : after.id = before.id
  countryCode : after.countryCode = before.countryCode
  general : after.general = before.general
  formats : after.formats = before.formats
  internationalFormats : after.internationalFormats = before.internationalFormats
  internationalPrefix : after.internationalPrefix = before.internationalPrefix
  nationalPrefixForParsing : after.nationalPrefixForParsing = before.nationalPrefixForParsing
  leadingDigits : after.leadingDigits = before.leadingDigits

/-- A record in which no typed description has a sample. -/
def Territory.withoutSamples (territory : Territory) : Territory :=
  { territory with
    typed := fun kind => (territory.typed kind).map fun desc => { desc with sample := none } }

/-- A record that describes no kind but mobile numbers and has no optional field. -/
def Territory.mobileAlone (territory : Territory) : Territory :=
  { territory with
    typed := fun kind => if kind = .mobile then territory.typed kind else none
    preferredInternationalPrefix := none
    nationalPrefix := none
    preferredExtnPrefix := none
    nationalPrefixTransformRule := none
    sameMobileAndFixedLine := false
    mainCountryForCode := false
    leadingZeroPossible := false }

namespace Filter

section Records

variable (filter : Filter) (territory : Territory)

theorem apply_sameCore : territory.SameCore (filter.apply territory) := by
  unfold apply
  split <;> constructor <;> rfl

theorem apply_typed : (filter.apply territory).typed = filter.applyTyped territory.typed := by
  unfold apply
  split <;> rfl

theorem applyDesc_pattern (desc : Descriptor) : (filter.applyDesc desc).pattern = desc.pattern := by
  unfold applyDesc
  split <;> rfl

theorem apply_nationalPrefixTransformRule :
    (filter.apply territory).nationalPrefixTransformRule =
      if filter.clearOptional then none else territory.nationalPrefixTransformRule := by
  unfold apply
  split <;> simp_all

theorem apply_stripSamples :
    apply { stripSamples := true } territory = territory.withoutSamples := by
  rfl

theorem apply_mobile :
    apply { kept := some [.mobile], clearOptional := true } territory =
      territory.mobileAlone := by
  have same : applyTyped { kept := some [.mobile], clearOptional := true } territory.typed =
      territory.mobileAlone.typed := by
    funext kind
    by_cases mobile : kind = .mobile
    · subst mobile
      cases given : territory.typed .mobile <;> simp [applyTyped, keeps, applyDesc,
        Territory.mobileAlone, given]
    · simp [applyTyped, keeps, Territory.mobileAlone, mobile]
  simp [apply, same, Territory.mobileAlone]

end Records

theorem applyTyped_eq_some {filter : Filter} {typed : NumberType → Option Descriptor}
    {kind : NumberType} {desc : Descriptor} (left : filter.applyTyped typed kind = some desc) :
    ∃ own, typed kind = some own ∧ filter.applyDesc own = desc := by
  unfold applyTyped at left
  split at left
  · exact Option.map_eq_some_iff.1 left
  · cases left

/-- A filter puts no pattern in the place of another. -/
theorem apply_checked [PatternReader] {territory : Territory} (filter : Filter)
    (known : territory.Checked) :
    (filter.apply territory).Checked := by
  have core := filter.apply_sameCore territory
  constructor
  case general => exact core.general ▸ known.general
  case typed =>
    intro kind desc left
    rw [apply_typed, Option.mem_def] at left
    obtain ⟨own, given, rfl⟩ := applyTyped_eq_some left
    rw [Descriptor.Checked, applyDesc_pattern]
    exact known.typed kind own given
  case formats => exact core.formats ▸ known.formats
  case internationalFormats => exact core.internationalFormats ▸ known.internationalFormats
  case leadingDigits => exact core.leadingDigits ▸ known.leadingDigits
  case internationalPrefix => exact core.internationalPrefix ▸ known.internationalPrefix
  case transformRule =>
    rw [apply_nationalPrefixTransformRule]
    split
    · simp
    · exact known.transformRule
  case transformed =>
    rw [apply_nationalPrefixTransformRule, core.nationalPrefixForParsing]
    split
    · simp
    · exact known.transformed

end Filter

section Patterns

/-- In every collection that is built, with whatever profile, each pattern that came from a place
where patterns are checked is a regular expression. -/
theorem build_checked [PatternReader] {document : Document} {profile : Profile} {workers : Int}
    {collection : Collection} (built : (build document profile workers).result = .ok collection) :
    ∀ territory ∈ collection, territory.Checked := by
  obtain ⟨enough, filter, chosen⟩ := build_asked built
  rw [build_result document profile enough, chosen, ok_bind] at built
  intro territory member
  obtain ⟨element, -, one⟩ := mem_mapM built member
  obtain ⟨compiled, given, rfl⟩ := compileFiltered_ok.1 one
  exact filter.apply_checked (compileTerritory_checked given)

open scoped Standard

/-- Two territories with patterns in all places where they are checked, some of them with blanks. -/
def patterned : Document :=
  .ofElement ⟨"territories", [], [
    .element "territory" [("id", "AR"), ("countryCode", "54"), ("leadingDigits", "9|1"),
        ("internationalPrefix", "00"), ("nationalPrefix", "0"),
        ("nationalPrefixForParsing", "0?(?: 11 | 2 )"), ("nationalPrefixTransformRule", "9$1")] [
      .element "numberFormat" [("pattern", "(.)(.+)")] [
        .element "leadingDigits" [] [.text "1 | 2"],
        .element "format" [] [.text "$1 $2"],
        .element "intlFormat" [] [.text "$1-$2"]],
      .element "generalDesc" [] [.element "nationalNumberPattern" [] [.text "[1-9] .*"]],
      .element "mobile" [] [
        .element "nationalNumberPattern" [] [.text "9 .*"],
        .element "exampleNumber" [] [.text "91"]]],
    .element "territory" [("countryCode", "800")] [
      .element "fixedLine" [] [.element "nationalNumberPattern" [] [.text "8+"]]]]⟩

theorem build_checked_patterned :
    ∃ collection, (build patterned { special := true } 2).result = .ok collection ∧
      collection.length = 2 ∧ ∀ territory ∈ collection, territory.Checked := by
  have builds : (build patterned { special := true } 2).result.map List.length = .ok 2 := by
    decide +kernel
  obtain ⟨collection, built, two⟩ := map_ok.1 builds
  exact ⟨collection, built, two, build_checked built⟩

end Patterns

section Profiles

/-- How the outcome of a build with a profile follows from that of the build without one. -/
inductive Filtered (shape : Territory → Territory) :
    Except Fault Collection → Except Fault Collection → Prop where
  | refused (fault : Fault) : Filtered shape (.error fault) (.error fault)
  | made (full : Collection) (core : ∀ territory ∈ full, territory.SameCore (shape territory)) :
      Filtered shape (.ok full) (.ok (full.map shape))

theorem Filtered.of_map (filter : Filter) (outcome : Except Fault Collection) :
    Filtered filter.apply outcome (outcome.map (List.map filter.apply)) := by
  cases outcome with
  | error fault => exact .refused fault
  | ok full => exact .made full fun territory _ => filter.apply_sameCore territory

/-- The rejection of a profile that is lite and special at once. -/
theorem Profile.filter_conflict :
    ∃ rejection, Profile.filter { lite := true, special := true } = .error (.rejected rejection) ∧
      rejection.code = .flagsConflict :=
  ⟨_, rfl, rfl⟩

/-- A build with a profile fails as the build without one does, or has its records with the filter
of the profile applied to each, in whatever order workers share either of them. A lite build takes
the samples away, a special one all kinds but mobile numbers and the optional fields. Both at once
are refused before any territory is taken up. -/
theorem build_profiles [PatternReader] {workers : Nat} (enough : 1 ≤ workers) :
    (∀ profile filter, profile.filter = .ok filter → ∀ document,
      Filtered filter.apply (build document {} workers).result
        (build document profile workers).result ∧
      ∀ moves full, buildShared document {} workers moves = some full →
        ∀ others outcome, buildShared document profile workers others = some outcome →
          Filtered filter.apply full outcome) ∧
    (∃ filter, Profile.filter { lite := true } = .ok filter ∧
      filter.apply = Territory.withoutSamples) ∧
    (∃ filter, Profile.filter { special := true } = .ok filter ∧
      filter.apply = Territory.mobileAlone) ∧
    ∃ rejection, rejection.code = .flagsConflict ∧ ∀ document,
      build document { lite := true, special := true } workers =
        ⟨[], .error (.rejected rejection)⟩ ∧
      ∀ moves, buildShared document { lite := true, special := true } workers moves =
        some (.error (.rejected rejection)) := by
  refine ⟨fun profile filter chosen document => ⟨?_, ?_⟩, ?_, ?_, ?_⟩
  · rw [build_eq_map chosen (by omega)]
    exact .of_map filter _
  · intro moves full handed others outcome handedToo
    rw [buildShared_outcome enough handed, buildShared_outcome enough handedToo,
      build_eq_map chosen (by omega)]
    exact .of_map filter _
  · exact ⟨_, rfl, funext Filter.apply_stripSamples⟩
  · exact ⟨_, rfl, funext Filter.apply_mobile⟩
  · obtain ⟨rejection, refused, code⟩ := Profile.filter_conflict
    refine ⟨rejection, code, fun document => ⟨?_, fun moves => ?_⟩⟩
    · rw [build, if_neg (by omega), refused]
    · rw [buildShared, if_neg (by omega), refused]

open scoped Standard

/-- The first of two workers comes back last. -/
def crossed : List Move := [.take 0, .take 1, .finish 1, .finish 0]

theorem build_profiles_patterned :
    1 ≤ 2 ∧ Profile.filter { lite := true } = .ok { stripSamples := true } ∧
      ∃ full outcome, buildShared patterned {} 2 crossed = some full ∧
        buildShared patterned { lite := true } 2 crossed = some outcome ∧
        Filtered (Filter.apply { stripSamples := true }) full outcome := by
  have plain : Profile.filter {} = .ok {} := rfl
  have chosen : Profile.filter { lite := true } = .ok { stripSamples := true } := rfl
  have complete (filter : Filter) : Pool.Completes 2 (compileFiltered patterned.variant filter)
      patterned.territories crossed := ⟨_, rfl, rfl⟩
  have handed := buildShared_completes plain (by decide) (complete {})
  have handedToo := buildShared_completes chosen (by decide) (complete { stripSamples := true })
  obtain ⟨laws, -⟩ := build_profiles (show 1 ≤ 2 by decide)
  exact ⟨by decide, chosen, _, _, handed, handedToo,
    (laws _ _ chosen patterned).2 crossed _ handed crossed _ handedToo⟩

end Profiles

end NumberingPlan

import NumberingPlan.Proofs.Collection.Regions
import NumberingPlan.Proofs.Territory.Compression
import NumberingPlan.Proofs.Text.Pieces

/-! The entries of a region index, one for each calling code. An entry lists all regions of its code
and no others, each as often as it has territories, with the only main country in front. A territory
without a name leaves no mark when it is the first of its code, and an empty region when it is a
later one. -/

namespace NumberingPlan

open Fallible
open Xml (Element)

namespace RegionIndex

section Counts

variable {territory first : Territory} {later : List Territory} {name : String}

theorem count_ownRegion :
    (ownRegion territory).count name = if name ≠ "" ∧ territory.id = name then 1 else 0 := by
  unfold ownRegion
  by_cases unnamed : territory.id = ""
  · have other : ¬(name ≠ "" ∧ territory.id = name) := fun ⟨named, same⟩ => named (same ▸ unnamed)
    rw [if_neg other, if_pos (by simpa using unnamed), List.count_nil]
  · by_cases same : territory.id = name
    · simp [← same, unnamed]
    · simp [unnamed, same]

theorem count_regions :
    (regions (first :: later)).count name =
      (ownRegion first).count name + (later.map (·.id)).count name := by
  rw [← (regions_perm _).count_eq, orderedRegions, List.count_append]

theorem count_named (named : name ≠ "") (territories : List Territory) :
    (regions territories).count name = (territories.map (·.id)).count name := by
  cases territories with
  | nil => rfl
  | cons first later =>
    rw [count_regions, count_ownRegion, List.map_cons, List.count_cons, Nat.add_comm]
    simp [named]

/-- A territory without a name leaves no mark when it is the first one. -/
theorem count_unnamed (territories : List Territory) :
    (regions territories).count "" = (territories.tail.map (·.id)).count "" := by
  cases territories with
  | nil => rfl
  | cons first later => simp [count_regions, count_ownRegion]

/-- The others stay in the order of the document. -/
theorem regions_onlyMain {before after : List Territory} {main : Territory}
    (marked : main.mainCountryForCode = true) (named : main.id ≠ "")
    (only : ∀ other ∈ before ++ after, other.mainCountryForCode = false) :
    regions (before ++ main :: after) = main.id :: (orderedRegions before ++ after.map (·.id)) := by
  have noneMain {part : List Territory} (among : part ⊆ before ++ after) :=
    filter_unmarked fun other member => only other (among member)
  obtain ⟨noneAfter, allAfter⟩ := noneMain (List.subset_append_right before after)
  cases before with
  | nil => simp [regions, orderedRegions, ownRegion, named, noneAfter, allAfter]
  | cons first middle =>
    have inside : middle ⊆ first :: middle ++ after :=
      List.Subset.trans (List.subset_cons_self first middle) (List.subset_append_left _ after)
    obtain ⟨noneMiddle, allMiddle⟩ := noneMain inside
    simp [regions, orderedRegions, marked, noneAfter, allAfter, noneMiddle, allMiddle]

end Counts

structure ListsRegions (collection : Collection) (code : Int) (names : List String) : Prop where
  listed : names = regions (sharing code collection)
  known : ∀ name ∈ names, ∃ territory ∈ sharing code collection, territory.id = name
  counted : ∀ name, name ≠ "" →
    names.count name = ((sharing code collection).map (·.id)).count name
  mainFirst : ∀ before main after, sharing code collection = before ++ main :: after →
    main.mainCountryForCode = true → main.id ≠ "" →
    (∀ other ∈ before ++ after, other.mainCountryForCode = false) →
    names = main.id :: (orderedRegions before ++ after.map (·.id))

/-- The index has one entry for each calling code of the collection, with the regions of the code's
territories: the main countries after the first territory in reverse, the first one's region if it
has one, then those of the others. -/
theorem ofCollection_entries (collection : Collection) :
    ((ofCollection collection).map Prod.fst).Nodup ∧
    (∀ code, code ∈ (ofCollection collection).map Prod.fst ↔
      ∃ territory ∈ collection, territory.countryCode = code) ∧
    ∀ entry ∈ ofCollection collection, ListsRegions collection entry.1 entry.2 := by
  refine ⟨?_, fun code => ?_, ?_⟩
  · rw [ofCollection_codes]
    exact codes_nodup collection
  · rw [ofCollection_codes]
    exact mem_codes_iff
  · refine forall_entries.2 fun code _ => ?_
    constructor
    case listed => rfl
    case known => exact fun name => exists_of_mem_regions
    case counted => exact fun name named => count_named named _
    case mainFirst =>
      intro before main after parted marked named only
      simp only [parted]
      exact regions_onlyMain marked named only

/-- The second main country overtakes the first, and the first territory has no region. -/
example :
    ofCollection [
      { id := "", countryCode := 1 },
      { id := "US", countryCode := 1, mainCountryForCode := true },
      { id := "GB", countryCode := 44 },
      { id := "CA", countryCode := 1 },
      { id := "AG", countryCode := 1, mainCountryForCode := true }] =
      [(1, ["AG", "US", "CA"]), (44, ["GB"])] := by
  decide

section Unnamed

def coded (document : Document) (code : Int) : List Element :=
  document.territories.filter fun element =>
    readCountryCode (element.value Vocabulary.countryCode) = .ok code

variable {document : Document} {profile : Profile} {workers : Int} {collection : Collection}

/-- Records have the names of their elements, code by code and whatever the profile. -/
theorem sharing_built [PatternReader]
    (built : (build document profile workers).result = .ok collection)
    (code : Int) :
    (sharing code collection).map (·.id) =
      (coded document code).map (·.value Vocabulary.id) := by
  obtain ⟨enough, filter, chosen⟩ := build_asked built
  have records := (build_ok chosen enough).1 built
  clear built
  unfold sharing coded
  generalize document.territories = elements at records ⊢
  induction records with
  | nil => rfl
  | @cons element territory elements territories made _ ih =>
    obtain ⟨compiled, given, rfl⟩ := made
    obtain ⟨named, read⟩ := compileTerritory_named given
    rw [List.filter_cons, List.filter_cons, read]
    by_cases same : compiled.countryCode = code
    · simp [same, named, ih]
    · simp [same, ih]

theorem split_codeLine {entry : Int × List String} (nonempty : entry.2 ≠ [])
    (clean : ∀ name ∈ entry.2, ',' ∉ name.toList) :
    ∃ printed, Outcome.codeLine entry =
        "CODE cc=" ++ Decimal.text entry.1 ++ " regions=" ++ printed ∧
      Text.split ',' printed.toList = entry.2.map String.toList := by
  refine ⟨_, rfl, ?_⟩
  have joined : (",".intercalate entry.2).toList = Text.join ',' (entry.2.map String.toList) :=
    String.toList_intercalate.trans (Text.intercalate_eq_join ',' _)
  rw [joined, Text.split_join (by simpa using nonempty) (by simpa using clean)]

/-- How territories without a name show in the index of a document. -/
structure ShowsUnnamed (document : Document) (collection : Collection) : Prop where
  counted : ∀ entry ∈ ofCollection collection,
    entry.2.count "" = ((coded document entry.1).tail.map (·.value Vocabulary.id)).count ""
  real : (∀ entry ∈ ofCollection collection, "" ∉ entry.2) ↔
    ∀ code, ∀ element ∈ (coded document code).tail, element.value Vocabulary.id ≠ ""
  printed : (∀ element ∈ document.territories, ',' ∉ (element.value Vocabulary.id).toList) →
    ∀ entry ∈ ofCollection collection, entry.2 ≠ [] →
      ∃ printed, Outcome.codeLine entry =
          "CODE cc=" ++ Decimal.text entry.1 ++ " regions=" ++ printed ∧
        Text.split ',' printed.toList = entry.2.map String.toList

/-- The index lists an empty region for each territory of the document that has no name and is not
the first of its code, and it is printed like the others. So there are real regions alone where
every later territory of a code has a name. -/
theorem unnamed_regions [PatternReader]
    (built : (build document profile workers).result = .ok collection) :
    ShowsUnnamed document collection := by
  have counted (code : Int) : (regions (sharing code collection)).count "" =
      ((coded document code).tail.map (·.value Vocabulary.id)).count "" := by
    rw [count_unnamed, List.map_tail, sharing_built built, List.map_tail]
  have unnamed (code : Int) : "" ∉ regions (sharing code collection) ↔
      ∀ element ∈ (coded document code).tail, element.value Vocabulary.id ≠ "" := by
    rw [← List.count_eq_zero, counted, List.count_eq_zero]
    simp only [List.mem_map, not_exists, not_and, ne_eq]
  constructor
  case counted => exact forall_entries.2 fun code _ => counted code
  case real =>
    simp only [forall_entries, ← unnamed]
    refine ⟨fun real code => ?_, fun real code _ => real code⟩
    by_cases listed : code ∈ codes collection
    · exact real code listed
    · simp [sharing_eq_nil listed, regions]
  case printed =>
    refine fun clean => forall_entries.2 fun code _ some => split_codeLine some fun name among => ?_
    obtain ⟨territory, shares, rfl⟩ := exists_of_mem_regions among
    have ofElement := List.mem_map_of_mem (f := Territory.id) shares
    rw [sharing_built built, List.mem_map] at ofElement
    obtain ⟨element, inside, named⟩ := ofElement
    exact named ▸ clean element (List.mem_filter.1 inside).1

open scoped Standard

/-- Territories of two codes, some without a name at the beginning of their code or later. -/
def sparselyNamed : Document :=
  .ofElement ⟨"territories", [], [
    .element "territory" [("countryCode", "800")] [],
    .element "territory" [("id", "A"), ("countryCode", "1")] [],
    .element "territory" [("countryCode", "1"), ("mainCountryForCode", "true")] [],
    .element "territory" [("countryCode", "0800")] [],
    .element "territory" [("id", ""), ("countryCode", "1")] []]⟩

theorem unnamed_regions_sparselyNamed :
    ∃ collection, (build sparselyNamed {} 1).result = .ok collection ∧
      ofCollection collection = [(800, [""]), (1, ["", "A", ""])] ∧
      ShowsUnnamed sparselyNamed collection := by
  have builds : (build sparselyNamed {} 1).result.map ofCollection =
      .ok [(800, [""]), (1, ["", "A", ""])] := by
    decide +kernel
  obtain ⟨collection, built, listed⟩ := map_ok.1 builds
  exact ⟨collection, built, listed, unnamed_regions built⟩

/-- A calling code whose second territory has no name. -/
def unnamedSecond : Document :=
  .ofElement ⟨"m", [], [
    .element "territory" [("id", "A"), ("countryCode", "1")] [],
    .element "territory" [("countryCode", "1")] []]⟩

/-- The index has an empty region, and it is printed after the comma. -/
theorem index_of_unnamedSecond :
    ∃ collection, (build unnamedSecond {} 1).result = .ok collection ∧
      (∃ entry ∈ ofCollection collection, "" ∈ entry.2) ∧
      Outcome.countryCodesText collection = "CODE cc=1 regions=A,\n" := by
  have builds : (build unnamedSecond {} 1).result.map (fun collection =>
      (ofCollection collection, Outcome.countryCodesText collection)) =
        .ok ([(1, ["A", ""])], "CODE cc=1 regions=A,\n") := by
    decide +kernel
  obtain ⟨collection, built, both⟩ := map_ok.1 builds
  obtain ⟨listed, printed⟩ := Prod.mk.inj both
  exact ⟨collection, built, ⟨(1, ["A", ""]), by simp [listed], by simp⟩, printed⟩

end Unnamed

end RegionIndex

end NumberingPlan

import Mathlib.Data.List.Dedup
import Mathlib.Data.List.Induction
import NumberingPlan.Outcome
import NumberingPlan.Proofs.Collection.Sequence
import NumberingPlan.Standard

/-! The index of a collection, code by code: the regions of a code depend on the territories with
that code alone, and of these on their order, their regions and which are main countries. A lite
build keeps all three. A special build has no main countries, so that it keeps the regions of every
code but leaves them in document order. -/

namespace NumberingPlan

open Xml (Element)

namespace RegionIndex

def codes (collection : Collection) : List Int :=
  (collection.map (·.countryCode)).reverse.dedup.reverse

def sharing (code : Int) (collection : Collection) : List Territory :=
  collection.filter (·.countryCode = code)

def ownRegion (territory : Territory) : List String :=
  if territory.id.isEmpty then [] else [territory.id]

/-- The regions of the territories of a code: the main countries that come after the first
territory, the last of them in front, then the first territory, then the others. -/
def regions : List Territory → List String
  | [] => []
  | first :: later =>
    ((later.filter (·.mainCountryForCode)).map (·.id)).reverse ++ ownRegion first
      ++ (later.filter (!·.mainCountryForCode)).map (·.id)

/-- The regions of the territories of a code as the document has them. -/
def orderedRegions : List Territory → List String
  | [] => []
  | first :: later => ownRegion first ++ later.map (·.id)

section Codes

theorem mem_sharing {collection : Collection} {code : Int} {territory : Territory} :
    territory ∈ sharing code collection ↔
      territory ∈ collection ∧ territory.countryCode = code := by
  simp [sharing]

theorem codes_nodup (collection : Collection) : (codes collection).Nodup :=
  List.nodup_reverse.2 (List.nodup_dedup _)

theorem mem_codes {collection : Collection} {code : Int} :
    code ∈ codes collection ↔ sharing code collection ≠ [] := by
  simp [codes, sharing, List.filter_eq_nil_iff]

theorem mem_codes_iff {collection : Collection} {code : Int} :
    code ∈ codes collection ↔ ∃ territory ∈ collection, territory.countryCode = code := by
  simp [codes]

theorem sharing_eq_nil {collection : Collection} {code : Int} (new : code ∉ codes collection) :
    sharing code collection = [] := by
  by_contra shared
  exact new (mem_codes.2 shared)

theorem codes_append (collection : Collection) (territory : Territory) :
    codes (collection ++ [territory]) =
      if territory.countryCode ∈ codes collection then codes collection
      else codes collection ++ [territory.countryCode] := by
  rw [codes, List.map_append, List.map_singleton, List.reverse_append, List.reverse_singleton,
    List.singleton_append, List.dedup_cons, apply_ite List.reverse, List.reverse_cons]
  simp only [codes, List.mem_reverse, List.mem_dedup]

end Codes

section Adding

variable {territory : Territory} {entries : List Int} {before after : Int → List String}

theorem sharing_append_own (collection : Collection) (territory : Territory) :
    sharing territory.countryCode (collection ++ [territory]) =
      sharing territory.countryCode collection ++ [territory] := by
  simp [sharing]

theorem sharing_append_other (collection : Collection) {code : Int}
    (other : code ≠ territory.countryCode) :
    sharing code (collection ++ [territory]) = sharing code collection := by
  simp [sharing, other.symm]

theorem regions_append {earlier : List Territory} (shared : earlier ≠ []) (territory : Territory) :
    regions (earlier ++ [territory]) =
      if territory.mainCountryForCode then territory.id :: regions earlier
      else regions earlier ++ [territory.id] := by
  obtain ⟨first, later, rfl⟩ := List.exists_cons_of_ne_nil shared
  cases main : territory.mainCountryForCode <;> simp [regions, main]

/-- A territory whose code is in the index changes the entry of that code alone. -/
theorem add_old (distinct : entries.Nodup) (old : territory.countryCode ∈ entries)
    (others : ∀ code, code ≠ territory.countryCode → after code = before code)
    (own : after territory.countryCode =
      if territory.mainCountryForCode then territory.id :: before territory.countryCode
      else before territory.countryCode ++ [territory.id]) :
    add territory (entries.map fun code => (code, before code)) =
      entries.map fun code => (code, after code) := by
  induction entries with
  | nil => simp at old
  | cons code rest ih =>
    obtain ⟨single, distinct⟩ := List.nodup_cons.1 distinct
    simp only [List.map_cons, add]
    by_cases same : code = territory.countryCode
    · subst same
      have kept : ∀ other ∈ rest, (other, before other) = (other, after other) :=
        fun other member => by rw [others other (ne_of_mem_of_not_mem member single)]
      rw [if_pos rfl, own, List.map_congr_left kept]
    · have later := (List.mem_cons.1 old).resolve_left (Ne.symm same)
      rw [if_neg same, ih distinct later, others code same]

theorem add_new (new : territory.countryCode ∉ entries) :
    add territory (entries.map fun code => (code, before code)) =
      entries.map (fun code => (code, before code))
        ++ [(territory.countryCode, ownRegion territory)] := by
  induction entries with
  | nil => rfl
  | cons code rest ih =>
    rw [List.mem_cons, not_or] at new
    simp [add, Ne.symm new.1, ih new.2]

end Adding

/-- Every code has the regions of the territories that share it. -/
theorem ofCollection_eq (collection : Collection) :
    ofCollection collection =
      (codes collection).map fun code => (code, regions (sharing code collection)) := by
  -- The index is folded from the front, so the territory that is added last stands at the end.
  induction collection using List.reverseRecOn with
  | nil => rfl
  | append_singleton earlier territory ih =>
    have step : ofCollection (earlier ++ [territory]) = add territory (ofCollection earlier) :=
      List.foldl_concat ..
    rw [step, ih]
    by_cases old : territory.countryCode ∈ codes earlier
    · rw [codes_append, if_pos old]
      refine add_old (codes_nodup earlier) old (fun code other => ?_) ?_
      · rw [sharing_append_other earlier other]
      · rw [sharing_append_own, regions_append (mem_codes.1 old)]
    · have alone := sharing_eq_nil old
      have kept : ∀ code ∈ codes earlier, (code, regions (sharing code earlier)) =
          (code, regions (sharing code (earlier ++ [territory]))) := fun code member => by
        rw [sharing_append_other earlier (ne_of_mem_of_not_mem member old)]
      rw [codes_append, if_neg old, add_new old, List.map_append, List.map_congr_left kept]
      simp [sharing_append_own, alone, regions]

theorem ofCollection_codes (collection : Collection) :
    (ofCollection collection).map Prod.fst = codes collection := by
  simp [ofCollection_eq, Function.comp_def]

/-- What holds of all entries holds code by code. -/
theorem forall_entries {collection : Collection} {p : Int × List String → Prop} :
    (∀ entry ∈ ofCollection collection, p entry) ↔
      ∀ code ∈ codes collection, p (code, regions (sharing code collection)) := by
  rw [ofCollection_eq, List.forall_mem_map]

section Order

theorem regions_perm (territories : List Territory) :
    (orderedRegions territories).Perm (regions territories) := by
  cases territories with
  | nil => rfl
  | cons first later =>
    have parted := (List.filter_append_perm (·.mainCountryForCode) later).map (·.id)
    rw [List.map_append] at parted
    refine (parted.symm.append_left (ownRegion first)).trans ?_
    rw [← List.append_assoc]
    refine .append_right _ (List.perm_append_comm.trans ?_)
    exact .append_right _ (List.reverse_perm _).symm

/-- No main country is moved to the front where there is none. -/
theorem filter_unmarked {later : List Territory}
    (unmarked : ∀ other ∈ later, other.mainCountryForCode = false) :
    later.filter (·.mainCountryForCode) = [] ∧ later.filter (!·.mainCountryForCode) = later := by
  rw [List.filter_eq_nil_iff, List.filter_eq_self]
  exact ⟨fun other member => by simp [unmarked other member],
    fun other member => by simp [unmarked other member]⟩

/-- With no main country after the first territory, the regions keep the document's order. -/
theorem regions_unmarked {territories : List Territory}
    (unmarked : ∀ later ∈ territories.tail, later.mainCountryForCode = false) :
    regions territories = orderedRegions territories := by
  cases territories with
  | nil => rfl
  | cons first later =>
    obtain ⟨noMain, allOthers⟩ := filter_unmarked unmarked
    rw [List.tail_cons] at noMain allOthers
    simp [regions, orderedRegions, noMain, allOthers]

theorem regions_main {territories : List Territory} {main : Territory}
    (member : main ∈ territories) (marked : main.mainCountryForCode = true) (named : main.id ≠ "")
    (only : ∀ other ∈ territories, other.mainCountryForCode = true → other.id = main.id) :
    ∃ others, regions territories = main.id :: others := by
  cases territories with
  | nil => simp at member
  | cons first later =>
    cases mains : (later.filter (·.mainCountryForCode)).reverse with
    | nil =>
      have noMain : later.filter (·.mainCountryForCode) = [] := by simpa using mains
      have leads : main = first := by
        rcases List.mem_cons.1 member with leads | follows
        · exact leads
        · simp [List.filter_eq_nil_iff.1 noMain main follows] at marked
      simp [regions, noMain, ownRegion, ← leads, named]
    | cons last rest =>
      have found : last ∈ later.filter (·.mainCountryForCode) :=
        List.mem_reverse.1 (mains ▸ List.mem_cons_self)
      obtain ⟨follows, mainToo⟩ := List.mem_filter.1 found
      have same := only last (.tail _ follows) mainToo
      simp [regions, ← List.map_reverse, mains, same]

end Order

section Members

variable {territories : List Territory}

theorem exists_of_mem_regions {region : String} (among : region ∈ regions territories) :
    ∃ territory ∈ territories, territory.id = region := by
  rw [← (regions_perm territories).mem_iff] at among
  cases territories with
  | nil => cases among
  | cons first later =>
    rcases List.mem_append.1 among with own | other
    · unfold ownRegion at own
      split at own
      · cases own
      · exact ⟨first, List.mem_cons_self, (List.mem_singleton.1 own).symm⟩
    · obtain ⟨territory, follows, named⟩ := List.mem_map.1 other
      exact ⟨territory, .tail _ follows, named⟩

theorem mem_regions {territory : Territory} (among : territory ∈ territories)
    (named : territory.id ≠ "") : territory.id ∈ regions territories := by
  rw [← (regions_perm territories).mem_iff]
  cases territories with
  | nil => cases among
  | cons first later =>
    rcases List.mem_cons.1 among with rfl | follows
    · simp [orderedRegions, ownRegion, named]
    · exact List.mem_append_right _ (List.mem_map_of_mem follows)

/-- What holds of no name holds of all regions in an index if it holds of all territories' names. -/
theorem forall_regions (collection : Collection) {p : String → Prop} (empty : p "") :
    (∀ entry ∈ ofCollection collection, ∀ region ∈ entry.2, p region) ↔
      ∀ territory ∈ collection, p territory.id := by
  rw [forall_entries]
  constructor
  · intro holds territory among
    by_cases named : territory.id = ""
    · exact named ▸ empty
    · have shares : territory ∈ sharing territory.countryCode collection :=
        mem_sharing.2 ⟨among, rfl⟩
      exact holds _ (mem_codes.2 (List.ne_nil_of_mem shares)) _ (mem_regions shares named)
  · intro holds code _ region among
    obtain ⟨territory, shares, rfl⟩ := exists_of_mem_regions among
    exact holds territory (mem_sharing.1 shares).1

theorem sorted_perm (collection : Collection) :
    ((ofCollection collection).sorted.map Prod.fst).Perm (codes collection) := by
  rw [← ofCollection_codes]
  exact (List.mergeSort_perm _ _).map _

theorem sorted_ascending (collection : Collection) :
    ((ofCollection collection).sorted.map Prod.fst).Pairwise (· < ·) := by
  have trans (a b c : Int × List String) :
      decide (a.1 ≤ b.1) = true → decide (b.1 ≤ c.1) = true → decide (a.1 ≤ c.1) = true := by
    simp only [decide_eq_true_eq]
    exact Int.le_trans
  have total (a b : Int × List String) : (decide (a.1 ≤ b.1) || decide (b.1 ≤ a.1)) = true := by
    simpa using Int.le_total a.1 b.1
  have ordered : ((ofCollection collection).sorted.map Prod.fst).Pairwise (· ≤ ·) := by
    rw [List.pairwise_map, sorted]
    simpa using List.pairwise_mergeSort trans total (ofCollection collection)
  have distinct := (sorted_perm collection).nodup_iff.2 (codes_nodup collection)
  exact (ordered.and distinct).imp fun ⟨le, ne⟩ => Int.lt_iff_le_and_ne.2 ⟨le, ne⟩

end Members

section Filtered

variable (filter : Filter) (collection : Collection)

theorem codes_filtered : codes (collection.map filter.apply) = codes collection := by
  simp [codes, Function.comp_def]

theorem sharing_filtered (code : Int) :
    sharing code (collection.map filter.apply) = (sharing code collection).map filter.apply := by
  simp [sharing, List.filter_map, Function.comp_def]

theorem orderedRegions_filtered (territories : List Territory) :
    orderedRegions (territories.map filter.apply) = orderedRegions territories := by
  cases territories <;> simp [orderedRegions, ownRegion]

variable {filter}

/-- The main countries are not among what a filter without optional fields removes. -/
theorem ofCollection_kept (kept : filter.clearOptional = false) :
    ofCollection (collection.map filter.apply) = ofCollection collection := by
  have same (territories : List Territory) :
      regions (territories.map filter.apply) = regions territories := by
    cases territories <;>
      simp [regions, ownRegion, List.filter_map, Function.comp_def, kept]
  simp only [ofCollection_eq, codes_filtered, sharing_filtered, same]

/-- Without main countries every code has its regions in the order of the document. -/
theorem ofCollection_cleared (cleared : filter.clearOptional = true) :
    ofCollection (collection.map filter.apply) =
      (codes collection).map fun code => (code, orderedRegions (sharing code collection)) := by
  have ordered (territories : List Territory) :
      regions (territories.map filter.apply) = orderedRegions territories := by
    rw [regions_unmarked, orderedRegions_filtered]
    simp [← List.map_tail, cleared]
  simp only [ofCollection_eq, codes_filtered, sharing_filtered, ordered]

end Filtered

structure Reordered (collection : Collection) (whole special : Int × List String) : Prop where
  code : special.1 = whole.1
  regions : special.2.Perm whole.2
  order : special.2 = orderedRegions (sharing whole.1 collection)
  unmarked : (∀ later ∈ (sharing whole.1 collection).tail, later.mainCountryForCode = false) →
    special.2 = whole.2

/-- A lite build has the index of the whole build, with the only main country of a code in front. A
special build has the same codes with the same regions, but in the order of the document. -/
theorem index_of_profiles [PatternReader] {document : Document} {workers : Int} {full : Collection}
    (built : (build document {} workers).result = .ok full) :
    ∃ lite special,
      (build document { lite := true } workers).result = .ok lite ∧
      (build document { special := true } workers).result = .ok special ∧
      ofCollection lite = ofCollection full ∧
      Outcome.countryCodesText lite = Outcome.countryCodesText full ∧
      (∀ main ∈ full, main.mainCountryForCode = true → main.id ≠ "" →
        (∀ other ∈ full, other.countryCode = main.countryCode →
          other.mainCountryForCode = true → other.id = main.id) →
        ∃ others, (main.countryCode, main.id :: others) ∈ ofCollection full) ∧
      List.Forall₂ (Reordered full) (ofCollection full) (ofCollection special) := by
  refine ⟨_, _, build_filtered rfl built, build_filtered rfl built, ofCollection_kept full rfl,
    by rw [Outcome.countryCodesText, ofCollection_kept full rfl, Outcome.countryCodesText], ?_, ?_⟩
  · intro main member marked named only
    have shares : main ∈ sharing main.countryCode full := mem_sharing.2 ⟨member, rfl⟩
    have alone : ∀ other ∈ sharing main.countryCode full,
        other.mainCountryForCode = true → other.id = main.id := fun other shared =>
      only other (mem_sharing.1 shared).1 (mem_sharing.1 shared).2
    obtain ⟨others, first⟩ := regions_main shares marked named alone
    refine ⟨others, ?_⟩
    rw [ofCollection_eq, ← first]
    exact List.mem_map_of_mem (mem_codes.2 (List.ne_nil_of_mem shares))
  · rw [ofCollection_cleared full rfl, ofCollection_eq, List.forall₂_map_left_iff,
      List.forall₂_map_right_iff, List.forall₂_same]
    exact fun code _ =>
      { code := rfl
        regions := regions_perm _
        order := rfl
        unmarked := fun unmarked => (regions_unmarked unmarked).symm }

open scoped Standard

/-- Two countries with one code, of which the second is the main one. -/
def mainLast : Document :=
  .ofElement ⟨"territories", [], [
    .element "territory" [("id", "CA"), ("countryCode", "1")] [],
    .element "territory" [("id", "US"), ("countryCode", "1"), ("mainCountryForCode", "true")] []]⟩

theorem index_of_mainLast :
    ∃ full lite special,
      (build mainLast {} 1).result = .ok full ∧
      (build mainLast { lite := true } 1).result = .ok lite ∧
      (build mainLast { special := true } 1).result = .ok special ∧
      ofCollection lite = ofCollection full ∧
      List.Forall₂ (Reordered full) (ofCollection full) (ofCollection special) := by
  have builds : (build mainLast {} 1).result.isOk = true := by decide +kernel
  obtain ⟨full, built⟩ := Fallible.isOk_iff.1 builds
  obtain ⟨lite, special, liteBuilt, specialBuilt, same, -, -, reordered⟩ := index_of_profiles built
  exact ⟨full, lite, special, built, liteBuilt, specialBuilt, same, reordered⟩

/-- In the special build the main country comes behind the other one. -/
theorem special_index_of_mainLast :
    (build mainLast {} 1).result.map ofCollection = .ok [(1, ["US", "CA"])] ∧
      (build mainLast { special := true } 1).result.map ofCollection = .ok [(1, ["CA", "US"])] := by
  constructor <;> decide +kernel

end RegionIndex

end NumberingPlan

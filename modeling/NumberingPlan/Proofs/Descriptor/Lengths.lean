import NumberingPlan.Descriptor
import NumberingPlan.Proofs.Length.Grammar
import NumberingPlan.Proofs.Length.Pair
import NumberingPlan.Proofs.Xml.Descent

/-! The lengths that the nodes inside an element declare, and how they are stored under the
lengths of the whole territory. -/

namespace NumberingPlan

open Fallible
open Xml (Element)

theorem LengthSet.mem_unions_map {α : Type} {values : List α} {sets : α → LengthSet} {x : Int} :
    x ∈ unions (values.map sets) ↔ ∃ value ∈ values, x ∈ sets value := by
  simp [mem_unions]

section Declared

theorem nodeLengths_ok {node : Element} {national localOnly : LengthSet} :
    nodeLengths node = .ok (national, localOnly) ↔
      readLengths (node.value Vocabulary.national) = .ok national ∧
        ((node.value? Vocabulary.localOnly = none ∧ localOnly = .empty) ∨
          ∃ text, node.value? Vocabulary.localOnly = some text ∧
            readLengths text = .ok localOnly ∧ ∀ x, x ∈ national → x ∉ localOnly) := by
  unfold nodeLengths
  rw [bind_ok]
  constructor
  · rintro ⟨read, ofNational, rest⟩
    split at rest
    · next missing =>
      simp only [Except.ok.injEq, Prod.mk.injEq] at rest
      obtain ⟨rfl, rfl⟩ := rest
      exact ⟨ofNational, .inl ⟨missing, rfl⟩⟩
    · next text given =>
      obtain ⟨readLocal, ofLocal, rest⟩ := bind_ok.1 rest
      simp only at rest
      split at rest
      · next apart =>
        simp only [Except.ok.injEq, Prod.mk.injEq] at rest
        obtain ⟨rfl, rfl⟩ := rest
        exact ⟨ofNational, .inr ⟨text, given, ofLocal, LengthSet.inter_isEmpty.1 apart⟩⟩
      · simp at rest
  · rintro ⟨ofNational, ⟨missing, rfl⟩ | ⟨text, given, ofLocal, apart⟩⟩
    · exact ⟨national, ofNational, by rw [missing]⟩
    · refine ⟨national, ofNational, ?_⟩
      simp only [given]
      exact bind_ok.2 ⟨localOnly, ofLocal, by simp [LengthSet.inter_isEmpty.2 apart]⟩

/-- Some node inside the element gives the length as a national one. -/
def DeclaresNational (element : Element) (length : Int) : Prop :=
  ∃ node ∈ element.findAll Vocabulary.possibleLengths, ∃ set,
    readLengths (node.value Vocabulary.national) = .ok set ∧ length ∈ set

theorem DeclaresNational.of_contains {outer inner : Element} {length : Int}
    (declares : DeclaresNational inner length) (inside : outer.Contains inner) :
    DeclaresNational outer length := by
  obtain ⟨node, found, given⟩ := declares
  exact ⟨node, inside.mem_findAll found, given⟩

theorem DeclaresNational.positive {element : Element} {length : Int}
    (declares : DeclaresNational element length) : 1 ≤ length := by
  obtain ⟨_, _, _, read, member⟩ := declares
  exact LengthSpec.readLengths_positive read member

theorem collectLengths_ok {element : Element} {national localOnly : LengthSet} :
    collectLengths element = .ok (national, localOnly) ↔ ∃ pairs,
      (element.findAll Vocabulary.possibleLengths).mapM nodeLengths = .ok pairs ∧
        national = .unions (pairs.map (·.1)) ∧ localOnly = .unions (pairs.map (·.2)) := by
  simp only [collectLengths, bind_ok, Except.ok.injEq, Prod.mk.injEq, @eq_comm _ national,
    @eq_comm _ localOnly]

theorem collectLengths_succeeds {element : Element} :
    (∃ lengths, collectLengths element = .ok lengths) ↔
      ∀ node ∈ element.findAll Vocabulary.possibleLengths, ∃ pair, nodeLengths node = .ok pair := by
  rw [← mapM_succeeds]
  simp only [Prod.exists, collectLengths_ok]
  constructor
  · rintro ⟨_, _, pairs, run, -⟩
    exact ⟨pairs, run⟩
  · rintro ⟨pairs, run⟩
    exact ⟨_, _, pairs, run, rfl, rfl⟩

/-- What is collected comes from the nodes one by one. -/
theorem mem_collected {element : Element} {national localOnly : LengthSet}
    (collected : collectLengths element = .ok (national, localOnly)) (x : Int) :
    (x ∈ national ↔ ∃ node ∈ element.findAll Vocabulary.possibleLengths,
      ∃ pair, nodeLengths node = .ok pair ∧ x ∈ pair.1) ∧
    (x ∈ localOnly ↔ ∃ node ∈ element.findAll Vocabulary.possibleLengths,
      ∃ pair, nodeLengths node = .ok pair ∧ x ∈ pair.2) := by
  obtain ⟨pairs, run, rfl, rfl⟩ := collectLengths_ok.1 collected
  rw [LengthSet.mem_unions_map, LengthSet.mem_unions_map, exists_mem_of_mapM run,
    exists_mem_of_mapM run]
  exact ⟨Iff.rfl, Iff.rfl⟩

theorem mem_collected_national {element : Element} {national localOnly : LengthSet}
    (collected : collectLengths element = .ok (national, localOnly)) (x : Int) :
    x ∈ national ↔ DeclaresNational element x := by
  rw [(mem_collected collected x).1, DeclaresNational]
  refine exists_congr fun node => and_congr_right fun found => ?_
  constructor
  · rintro ⟨pair, given, member⟩
    exact ⟨pair.1, (nodeLengths_ok.1 given).1, member⟩
  · rintro ⟨set, read, member⟩
    obtain ⟨pair, given⟩ := collectLengths_succeeds.1 ⟨_, collected⟩ node found
    have same := (nodeLengths_ok.1 given).1
    rw [read, Except.ok.injEq] at same
    exact ⟨pair, given, same ▸ member⟩

/-- Some node inside the element gives the length as a local-only one. -/
def DeclaresLocalOnly (element : Element) (length : Int) : Prop :=
  ∃ node ∈ element.findAll Vocabulary.possibleLengths, ∃ text,
    node.value? Vocabulary.localOnly = some text ∧ ∃ set, readLengths text = .ok set ∧ length ∈ set

theorem DeclaresLocalOnly.positive {element : Element} {length : Int}
    (declares : DeclaresLocalOnly element length) : 1 ≤ length := by
  obtain ⟨_, _, _, _, _, read, member⟩ := declares
  exact LengthSpec.readLengths_positive read member

theorem mem_collected_localOnly {element : Element} {national localOnly : LengthSet}
    (collected : collectLengths element = .ok (national, localOnly)) (x : Int) :
    x ∈ localOnly ↔ DeclaresLocalOnly element x := by
  rw [(mem_collected collected x).2, DeclaresLocalOnly]
  refine exists_congr fun node => and_congr_right fun found => ?_
  constructor
  · rintro ⟨pair, given, member⟩
    rcases (nodeLengths_ok.1 given).2 with ⟨-, none⟩ | ⟨text, written, read, -⟩
    · exact absurd (none ▸ member) (LengthSet.not_mem_empty x)
    · exact ⟨text, written, pair.2, read, member⟩
  · rintro ⟨text, written, set, read, member⟩
    obtain ⟨pair, given⟩ := collectLengths_succeeds.1 ⟨_, collected⟩ node found
    rcases (nodeLengths_ok.1 given).2 with ⟨missing, -⟩ | ⟨own, writtenOwn, same, -⟩
    · simp [missing] at written
    · obtain rfl : text = own := by simpa [written] using writtenOwn
      rw [read, Except.ok.injEq] at same
      exact ⟨pair, given, same ▸ member⟩

/-- The texts of a node can be read as lengths, that of the local-only ones if it is there. -/
structure LengthsReadable (node : Element) : Prop where
  national : ∃ set, readLengths (node.value Vocabulary.national) = .ok set
  localOnly : ∀ text ∈ node.value? Vocabulary.localOnly, ∃ set, readLengths text = .ok set

theorem collectLengths_readable {element node : Element} {lengths : LengthSet × LengthSet}
    (collected : collectLengths element = .ok lengths)
    (found : node ∈ element.findAll Vocabulary.possibleLengths) : LengthsReadable node := by
  obtain ⟨⟨national, localOnly⟩, given⟩ := collectLengths_succeeds.1 ⟨lengths, collected⟩ node found
  obtain ⟨ofNational, ofLocal⟩ := nodeLengths_ok.1 given
  refine ⟨⟨national, ofNational⟩, fun text written => ?_⟩
  rcases ofLocal with ⟨missing, -⟩ | ⟨own, writtenOwn, read, -⟩
  · simp [missing] at written
  · obtain rfl : own = text := by simpa [writtenOwn] using written
    exact ⟨localOnly, read⟩

/-- A node always gives some national length, so nothing is collected only where no node is. -/
theorem collected_national_empty {element : Element} {national localOnly : LengthSet}
    (collected : collectLengths element = .ok (national, localOnly)) :
    national = .empty ↔ element.findAll Vocabulary.possibleLengths = [] := by
  rw [LengthSet.eq_empty_iff, List.eq_nil_iff_forall_not_mem]
  simp only [mem_collected_national collected]
  constructor
  · intro none node found
    obtain ⟨set, read⟩ := (collectLengths_readable collected found).national
    obtain ⟨x, member⟩ := LengthSpec.readLengths_nonempty read
    exact none x ⟨node, found, set, read, member⟩
  · rintro none x ⟨node, found, -⟩
    exact none node found

/-- Without a node nothing is collected. -/
theorem collectLengths_of_bare {element : Element}
    (bare : element.findAll Vocabulary.possibleLengths = []) :
    collectLengths element = .ok (.empty, .empty) := by
  have nothing : LengthSet.unions [] = .empty :=
    LengthSet.ext fun x => by simp [LengthSet.mem_unions]
  exact collectLengths_ok.2 ⟨[], by rw [bare]; rfl, nothing.symm, nothing.symm⟩

/-- An element inside another is read without a fault when the outer one is. -/
theorem collectLengths_of_contains {outer inner : Element} (inside : outer.Contains inner)
    {lengths : LengthSet × LengthSet} (collected : collectLengths outer = .ok lengths) :
    ∃ within, collectLengths inner = .ok within :=
  collectLengths_succeeds.2 fun node found =>
    collectLengths_succeeds.1 ⟨lengths, collected⟩ node (inside.mem_findAll found)

end Declared

section Stored

theorem LengthSet.firstOutside?_none {set : LengthSet} {covered : Int → Bool} :
    set.firstOutside? covered = none ↔ ∀ x, x ∈ set → covered x = true := by
  simp [firstOutside?, mem_def]

/-- The general lengths allow the ones that are declared. Without general lengths all are. -/
def Covered (national localOnly : LengthSet) : Option LengthPair → Prop
  | none => True
  | some general => (∀ x, x ∈ national → x ∈ general.national) ∧
      ∀ x, x ∈ localOnly → x ∉ national → x ∈ general.localOnly ∨ x ∈ general.national

/-- The general lengths are not written twice. -/
def storedNational (national : LengthSet) : Option LengthPair → LengthSet
  | none => national
  | some general => if national = general.national then .empty else national

theorem storedNational_subset {national : LengthSet} {general : Option LengthPair} {x : Int}
    (member : x ∈ storedNational national general) : x ∈ national := by
  cases general with
  | none => exact member
  | some general =>
    rw [storedNational] at member
    split at member
    · exact absurd member (LengthSet.not_mem_empty x)
    · exact member

theorem mem_onlyLocal {national localOnly : LengthSet} {x : Int} :
    x ∈ localOnly.filter (fun length => !decide (length ∈ national)) ↔
      x ∈ localOnly ∧ x ∉ national := by
  simp

/-- National lengths are apart from those that are local alone. -/
theorem onlyLocal_apart {national localOnly stored : LengthSet}
    (part : ∀ x, x ∈ stored → x ∈ national) :
    ∀ x, x ∈ stored → x ∉ localOnly.filter (fun length => !decide (length ∈ national)) :=
  fun x member both => (mem_onlyLocal.1 both).2 (part x member)

/-- A pair of national lengths and of those that are local alone is never refused. -/
theorem storedPair_ok {national localOnly stored : LengthSet} {pair : LengthPair}
    (part : ∀ x, x ∈ stored → x ∈ national) :
    (LengthPair.ofLists stored.toList
      (localOnly.filter (fun length => !decide (length ∈ national))).toList).mapError
        (fun fault => Fault.limit (.lengths fault)) = .ok pair ↔
      pair.national = stored ∧ ∀ x, x ∈ pair.localOnly ↔ x ∈ localOnly ∧ x ∉ national := by
  rw [LengthPair.ofLists_toList (onlyLocal_apart part)]
  simp only [mapError_ok, Except.ok.injEq]
  constructor
  · rintro rfl
    exact ⟨rfl, fun x => mem_onlyLocal⟩
  · rintro ⟨same, members⟩
    exact LengthPair.ext same.symm (LengthSet.ext fun x => by rw [members, mem_onlyLocal])

/-- Lengths are covered when the search finds none outside the general ones. -/
theorem covered_iff {national localOnly : LengthSet} {general : LengthPair} :
    Covered national localOnly (some general) ↔
      national.firstOutside? (fun length => decide (length ∈ general.national)) = none ∧
        (localOnly.filter (fun length => !decide (length ∈ national))).firstOutside?
          (fun length => decide (length ∈ general.localOnly)
            || decide (length ∈ general.national)) = none := by
  simp only [Covered, LengthSet.firstOutside?_none, mem_onlyLocal, and_imp, decide_eq_true_eq,
    Bool.or_eq_true]

/-- Lengths are stored exactly when they are covered, and the pair that holds them is never
refused. -/
theorem resolveLengths_ok {national localOnly : LengthSet} {general : Option LengthPair}
    {pair : LengthPair} :
    resolveLengths national localOnly general = .ok pair ↔
      Covered national localOnly general ∧ pair.national = storedNational national general ∧
        ∀ x, x ∈ pair.localOnly ↔ x ∈ localOnly ∧ x ∉ national := by
  unfold resolveLengths
  cases general with
  | none => simp only [Covered, storedNational, true_and, storedPair_ok fun x member => member]
  | some general =>
    rw [covered_iff]
    dsimp only
    split
    · next outside => simp [outside]
    · next inside =>
      split
      · next outside => simp [outside]
      · next insideLocal =>
        rw [← storedNational, storedPair_ok fun x member => storedNational_subset member]
        simp only [inside, insideLocal, true_and]

end Stored

end NumberingPlan

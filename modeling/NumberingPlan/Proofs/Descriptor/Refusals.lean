import NumberingPlan.Proofs.Descriptor.Lengths

/-! What is told of lengths that cannot be kept. Lengths are collected node by node, so the node
that is refused is the first one in document order with a text that specifies nothing or with a
length of both sorts; nodes are never compared with one another. Collected lengths are stored under
the general ones when these allow them, and the refusal names the least length that they do not. -/

namespace NumberingPlan

open Fallible
open LengthSpec (Malformed ShortRuns Specifies specifies_iff_read readLengths_error)
open Xml (Element)

section Nodes

/-- No text of lengths in the node has a run of digits that is too long for a numeral. -/
structure ShortLengths (node : Element) : Prop where
  national : ShortRuns (node.value Vocabulary.national).toList
  localOnly : ∀ text, node.value? Vocabulary.localOnly = some text → ShortRuns text.toList

/-- The lengths that a node gives by its texts, of which that of the local-only ones may be missing.
No length is national and local-only at once. -/
structure GivesLengths (node : Element) (national localOnly : Set Int) : Prop where
  given : Specifies (node.value Vocabulary.national).toList national
  givenLocal : (node.value? Vocabulary.localOnly = none ∧ localOnly = ∅) ∨
    ∃ text, node.value? Vocabulary.localOnly = some text ∧ Specifies text.toList localOnly
  apart : Disjoint national localOnly

/-- How a node that gives no lengths is refused: by its national text, else by its local-only one,
else by all the lengths that both of them specify. -/
inductive NodeRefused (node : Element) : Rejection → Prop where
  | national {rejection : Rejection}
      (malformed : Malformed (node.value Vocabulary.national) rejection) :
      NodeRefused node rejection
  | localOnly {national : Set Int} {text : String} {rejection : Rejection}
      (given : Specifies (node.value Vocabulary.national).toList national)
      (written : node.value? Vocabulary.localOnly = some text)
      (malformed : Malformed text rejection) : NodeRefused node rejection
  | overlap {national localOnly : Set Int} {text : String} {common : LengthSet}
      (given : Specifies (node.value Vocabulary.national).toList national)
      (written : node.value? Vocabulary.localOnly = some text)
      (givenLocal : Specifies text.toList localOnly)
      (shared : ∀ x, x ∈ common ↔ x ∈ national ∧ x ∈ localOnly) (met : common ≠ .empty) :
      NodeRefused node
        { code := .lengthSetsOverlap, input := text,
          message := "possible length(s) found specified as a normal and local-only length: "
            ++ common.text,
          witness := some (common.toList.map Decimal.text) }

variable {node : Element}

theorem givesLengths_iff (short : ShortLengths node) {national localOnly : Set Int} :
    GivesLengths node national localOnly ↔ ∃ pair, nodeLengths node = .ok pair ∧
      national = {x | x ∈ pair.1} ∧ localOnly = {x | x ∈ pair.2} := by
  constructor
  · rintro ⟨given, givenLocal, apart⟩
    obtain ⟨nationalSet, read, rfl⟩ := (specifies_iff_read short.national).1 given
    rcases givenLocal with ⟨missing, rfl⟩ | ⟨text, written, givenLocal⟩
    · exact ⟨(nationalSet, .empty), nodeLengths_ok.2 ⟨read, .inl ⟨missing, rfl⟩⟩, rfl, by simp⟩
    · have brief := short.localOnly text written
      obtain ⟨localSet, readLocal, rfl⟩ := (specifies_iff_read brief).1 givenLocal
      have separate : ∀ x, x ∈ nationalSet → x ∉ localSet := fun x member =>
        Set.disjoint_left.1 apart member
      exact ⟨(nationalSet, localSet),
        nodeLengths_ok.2 ⟨read, .inr ⟨text, written, readLocal, separate⟩⟩, rfl, rfl⟩
  · rintro ⟨⟨nationalSet, localSet⟩, given, rfl, rfl⟩
    obtain ⟨read, ofLocal⟩ := nodeLengths_ok.1 given
    have ofNational := (specifies_iff_read short.national).2 ⟨nationalSet, read, rfl⟩
    rcases ofLocal with ⟨missing, rfl⟩ | ⟨text, written, readLocal, separate⟩
    · have none : {x | x ∈ LengthSet.empty} = (∅ : Set Int) := by simp
      exact ⟨ofNational, .inl ⟨missing, none⟩, none ▸ Set.disjoint_empty _⟩
    · have givenLocal := (specifies_iff_read (short.localOnly text written)).2 ⟨_, readLocal, rfl⟩
      exact ⟨ofNational, .inr ⟨text, written, givenLocal⟩, Set.disjoint_left.2 separate⟩

/-- Each fault of a node has its refusal, and is told only when those before it are not there. -/
theorem nodeLengths_error (short : ShortLengths node) {fault : Fault} :
    nodeLengths node = .error fault ↔
      ∃ rejection, fault = .rejected rejection ∧ NodeRefused node rejection := by
  unfold nodeLengths
  constructor
  · intro failed
    rcases bind_error.1 failed with early | ⟨national, read, failed⟩
    · obtain ⟨rejection, rfl, malformed⟩ := (readLengths_error short.national).1 early
      exact ⟨rejection, rfl, .national malformed⟩
    · have given := (specifies_iff_read short.national).2 ⟨national, read, rfl⟩
      split at failed
      · cases failed
      · next text written =>
        have brief := short.localOnly text written
        rcases bind_error.1 failed with early | ⟨localOnly, readLocal, failed⟩
        · obtain ⟨rejection, rfl, malformed⟩ := (readLengths_error brief).1 early
          exact ⟨rejection, rfl, .localOnly given written malformed⟩
        · have givenLocal := (specifies_iff_read brief).2 ⟨localOnly, readLocal, rfl⟩
          have shared (x : Int) := LengthSet.mem_inter x national localOnly
          dsimp only at failed
          split at failed
          · cases failed
          · next both =>
            cases failed
            rw [LengthSet.isEmpty_iff] at both
            exact ⟨_, rfl, .overlap given written givenLocal shared both⟩
  · rintro ⟨rejection, rfl, refused⟩
    cases refused with
    | national malformed => exact bind_error.2 (.inl malformed.told)
    | @localOnly _ text _ given written malformed =>
      obtain ⟨national, read, -⟩ := (specifies_iff_read short.national).1 given
      refine bind_error.2 (.inr ⟨national, read, ?_⟩)
      simp only [written]
      exact bind_error.2 (.inl malformed.told)
    | @overlap _ _ text common given written givenLocal shared met =>
      obtain ⟨national, read, rfl⟩ := (specifies_iff_read short.national).1 given
      obtain ⟨localOnly, readLocal, rfl⟩ :=
        (specifies_iff_read (short.localOnly text written)).1 givenLocal
      obtain rfl : common = national.inter localOnly :=
        LengthSet.ext fun x => (shared x).trans (LengthSet.mem_inter x _ _).symm
      refine bind_error.2 (.inr ⟨national, read, ?_⟩)
      simp only [written]
      refine bind_error.2 (.inr ⟨localOnly, readLocal, if_neg ?_⟩)
      rwa [LengthSet.isEmpty_iff]

end Nodes

section Collected

variable {element : Element}

theorem collectLengths_error {fault : Fault} :
    collectLengths element = .error fault ↔
      (element.findAll Vocabulary.possibleLengths).mapM nodeLengths = .error fault := by
  simp [collectLengths, bind_error]

/-- Lengths are collected exactly when every node gives some, and then they are all that the nodes
give, whether or not a length is national in one node and local-only in another. Otherwise the
first node that gives none is refused. -/
theorem collectLengths_merges
    (short : ∀ node ∈ element.findAll Vocabulary.possibleLengths, ShortLengths node) :
    ((∃ lengths, collectLengths element = .ok lengths) ↔
      ∀ node ∈ element.findAll Vocabulary.possibleLengths,
        ∃ national localOnly, GivesLengths node national localOnly) ∧
    (∀ national localOnly, collectLengths element = .ok (national, localOnly) → ∀ x,
      (x ∈ national ↔ ∃ node ∈ element.findAll Vocabulary.possibleLengths,
        ∃ own ownLocal, GivesLengths node own ownLocal ∧ x ∈ own) ∧
      (x ∈ localOnly ↔ ∃ node ∈ element.findAll Vocabulary.possibleLengths,
        ∃ own ownLocal, GivesLengths node own ownLocal ∧ x ∈ ownLocal)) ∧
    ∀ fault, collectLengths element = .error fault ↔ ∃ before node after,
      element.findAll Vocabulary.possibleLengths = before ++ node :: after ∧
        (∀ earlier ∈ before, ∃ national localOnly, GivesLengths earlier national localOnly) ∧
        ∃ rejection, fault = .rejected rejection ∧ NodeRefused node rejection := by
  have gives {node : Element} (found : node ∈ element.findAll Vocabulary.possibleLengths) :
      (∃ pair, nodeLengths node = .ok pair) ↔
        ∃ national localOnly, GivesLengths node national localOnly := by
    simp only [givesLengths_iff (short node found)]
    constructor
    · exact fun ⟨pair, given⟩ => ⟨_, _, pair, given, rfl, rfl⟩
    · exact fun ⟨_, _, pair, given, _⟩ => ⟨pair, given⟩
  refine ⟨?_, fun national localOnly collected x => ?_, fun fault => ?_⟩
  · rw [collectLengths_succeeds]
    exact forall₂_congr fun node found => gives found
  · rw [(mem_collected collected x).1, (mem_collected collected x).2]
    constructor
    all_goals
      refine exists_congr fun node => and_congr_right fun found => ?_
      simp only [givesLengths_iff (short node found)]
      constructor
      · exact fun ⟨pair, given, member⟩ => ⟨_, _, ⟨pair, given, rfl, rfl⟩, member⟩
      · rintro ⟨_, _, ⟨pair, given, rfl, rfl⟩, member⟩
        exact ⟨pair, given, member⟩
  · rw [collectLengths_error, mapM_error]
    refine exists_congr fun before => exists_congr fun node => exists_congr fun after =>
      and_congr_right fun parted => ?_
    have among {one : Element} (member : one ∈ before ++ node :: after) :
        one ∈ element.findAll Vocabulary.possibleLengths := parted ▸ member
    refine and_congr (forall₂_congr fun earlier member => gives (among (by simp [member]))) ?_
    exact nodeLengths_error (short node (among (by simp)))

/-- Three nodes at two depths. A length of both sorts in different nodes is no fault; the second
node has two of its own, and the third has no national text. -/
def crossedLine : Element :=
  ⟨"fixedLine", [], [
    .element "possibleLengths" [("national", "9,10"), ("localOnly", "6")] [],
    .element "mobile" [] [
      .element "possibleLengths" [("national", "[6-10]"), ("localOnly", "10,5,9")] []],
    .element "possibleLengths" [("localOnly", "6")] []]⟩

theorem collectLengths_crossedLine :
    (∀ node ∈ crossedLine.findAll Vocabulary.possibleLengths, ShortLengths node) ∧
      ∃ rejection, collectLengths crossedLine = .error (.rejected rejection) ∧
        rejection.code = .lengthSetsOverlap ∧ rejection.witness = some ["9", "10"] ∧
        ∃ before node after,
          crossedLine.findAll Vocabulary.possibleLengths = before ++ node :: after ∧
          (∀ earlier ∈ before, ∃ national localOnly, GivesLengths earlier national localOnly) ∧
          NodeRefused node rejection := by
  have short : ∀ node ∈ crossedLine.findAll Vocabulary.possibleLengths, ShortLengths node := by
    have nodes : crossedLine.findAll Vocabulary.possibleLengths = [
        ⟨"possibleLengths", [("national", "9,10"), ("localOnly", "6")], []⟩,
        ⟨"possibleLengths", [("national", "[6-10]"), ("localOnly", "10,5,9")], []⟩,
        ⟨"possibleLengths", [("localOnly", "6")], []⟩] := rfl
    simp only [nodes, List.forall_mem_cons, List.not_mem_nil, false_imp_iff, implies_true, and_true]
    have brief (text : String) (bound : text.toList.length ≤ Decimal.maxDigits) :
        ShortRuns text.toList := .of_length bound
    refine ⟨⟨brief _ (by decide), ?_⟩, ⟨brief _ (by decide), ?_⟩, ⟨brief _ (by decide), ?_⟩⟩
    all_goals
      rintro _ ⟨⟩
      exact brief _ (by decide)
  have refused : collectLengths crossedLine = .error (.rejected
      { code := .lengthSetsOverlap, input := "10,5,9", witness := some ["9", "10"],
        message := "possible length(s) found specified as a normal and local-only length: "
          ++ "9,10" }) := by
    cbv
  obtain ⟨before, node, after, parted, fine, rejection, same, told⟩ :=
    ((collectLengths_merges short).2.2 _).1 refused
  cases same
  exact ⟨short, _, refused, rfl, rfl, before, node, after, parted, fine, told⟩

end Collected

section Stored

variable {national localOnly : LengthSet}

/-- A search in ascending order finds the least. -/
theorem LengthSet.firstOutside?_some {set : LengthSet} {covered : Int → Bool} {length : Int} :
    set.firstOutside? covered = some length ↔
      IsLeast {x | x ∈ set ∧ covered x = false} length := by
  have least {x : Int} (found : set.firstOutside? covered = some x) :
      IsLeast {x | x ∈ set ∧ covered x = false} x := by
    obtain ⟨outside, before, after, parted, inside⟩ := List.find?_eq_some_iff_append.1 found
    have sorted := set.sorted
    rw [parted] at sorted
    refine ⟨⟨by simp [mem_def, parted], by simpa using outside⟩, fun y ⟨member, uncovered⟩ => ?_⟩
    rw [mem_def, parted, List.mem_append, List.mem_cons] at member
    rcases member with earlier | rfl | later
    · have covers : covered y = true := by simpa using inside y earlier
      simp [uncovered] at covers
    · exact Int.le_refl _
    · exact ((List.pairwise_cons.1 (List.pairwise_append.1 sorted).2.1).1 y later).le
  refine ⟨least, fun given => ?_⟩
  cases found : set.firstOutside? covered with
  | none =>
    have covers := firstOutside?_none.1 found length given.1.1
    simp [given.1.2] at covers
  | some x => rw [(least found).unique given]

theorem leastNational {general : LengthPair} {length : Int} :
    national.firstOutside? (fun length => decide (length ∈ general.national)) = some length ↔
      IsLeast {x | x ∈ national ∧ x ∉ general.national} length := by
  simp only [LengthSet.firstOutside?_some, decide_eq_false_iff_not]

theorem leastLocalOnly {general : LengthPair} {length : Int} :
    (localOnly.filter (fun length => !decide (length ∈ national))).firstOutside?
        (fun length => decide (length ∈ general.localOnly)
          || decide (length ∈ general.national)) = some length ↔
      IsLeast {x | x ∈ localOnly ∧ x ∉ national ∧ x ∉ general.localOnly ∧
        x ∉ general.national} length := by
  simp only [LengthSet.firstOutside?_some, mem_onlyLocal, Bool.or_eq_false_iff,
    decide_eq_false_iff_not, and_assoc]

/-- What is said of a length that the general ones do not cover. -/
def notCovered (sort : String) (length : Int) (covering declared : LengthSet) : Rejection :=
  { code := .lengthNotCovered, input := declared.text,
    message := "out-of-range " ++ sort ++ "possible length found (" ++ Decimal.text length
      ++ "), parent " ++ sort ++ "lengths " ++ covering.text,
    witness := some [Decimal.text length] }

/-- How lengths are refused under general ones: by the least national length that is not among the
general ones, and where there is none by the least of the local-only lengths that are not national
and in neither of the general sets. -/
inductive Uncovered (national localOnly : LengthSet) (general : LengthPair) : Rejection → Prop where
  | national {length : Int} (least : IsLeast {x | x ∈ national ∧ x ∉ general.national} length) :
      Uncovered national localOnly general (notCovered "" length general.national national)
  | localOnly {length : Int} (covered : ∀ x, x ∈ national → x ∈ general.national)
      (least : IsLeast {x | x ∈ localOnly ∧ x ∉ national ∧ x ∉ general.localOnly ∧
        x ∉ general.national} length) :
      Uncovered national localOnly general
        (notCovered "local-only " length general.localOnly localOnly)

/-- Nothing but a length that is not covered is ever refused: the pair to be stored is one. -/
theorem resolveLengths_error {general : Option LengthPair} {fault : Fault} :
    resolveLengths national localOnly general = .error fault ↔ ∃ covering rejection,
      general = some covering ∧ fault = .rejected rejection ∧
        Uncovered national localOnly covering rejection := by
  have stores {stored : LengthSet} (part : ∀ x, x ∈ stored → x ∈ national) :
      (LengthPair.ofLists stored.toList
        (localOnly.filter (fun length => !decide (length ∈ national))).toList).mapError
          (fun fault => Fault.limit (.lengths fault)) ≠ .error fault := by
    rw [LengthPair.ofLists_toList (onlyLocal_apart part)]
    nofun
  cases general with
  | none => simpa [resolveLengths] using stores fun x member => member
  | some general =>
    constructor
    · intro failed
      unfold resolveLengths at failed
      dsimp only at failed
      split at failed
      · next length found =>
        cases failed
        exact ⟨general, _, rfl, rfl, .national (leastNational.1 found)⟩
      · next covered =>
        rw [LengthSet.firstOutside?_none] at covered
        split at failed
        · next length found =>
          cases failed
          refine ⟨general, _, rfl, rfl, .localOnly (fun x member => ?_) (leastLocalOnly.1 found)⟩
          simpa using covered x member
        · exact absurd failed (stores fun x (member : x ∈ storedNational national (some general)) =>
            storedNational_subset member)
    · rintro ⟨covering, rejection, ⟨⟩, rfl, uncovered⟩
      cases uncovered with
      | national least =>
        simp only [resolveLengths, leastNational.2 least]
        rfl
      | localOnly covered least =>
        have none : national.firstOutside? (fun length => decide (length ∈ general.national)) =
            none := LengthSet.firstOutside?_none.2 fun x member => by simpa using covered x member
        simp only [resolveLengths, none, leastLocalOnly.2 least]
        rfl

/-- Lengths are stored exactly when the general ones cover them, national ones as nothing when they
are the general ones and local-only ones as far as they are not national; the two lists always make
a pair. Otherwise the least length that is not covered is named, national ones first. -/
theorem resolveLengths_settles (national localOnly : LengthSet) (general : Option LengthPair) :
    ((∃ pair, resolveLengths national localOnly general = .ok pair) ↔
      Covered national localOnly general) ∧
    (∀ pair, resolveLengths national localOnly general = .ok pair →
      LengthPair.ofLists (storedNational national general).toList
          (localOnly.filter (fun length => !decide (length ∈ national))).toList = .ok pair ∧
        pair.national = storedNational national general ∧
        ∀ x, x ∈ pair.localOnly ↔ x ∈ localOnly ∧ x ∉ national) ∧
    ∀ fault, resolveLengths national localOnly general = .error fault ↔ ∃ covering rejection,
      general = some covering ∧ fault = .rejected rejection ∧
        Uncovered national localOnly covering rejection := by
  have part : ∀ x, x ∈ storedNational national general → x ∈ national := fun x member =>
    storedNational_subset member
  let kept : LengthPair := ⟨storedNational national general,
    localOnly.filter (fun length => !decide (length ∈ national)), onlyLocal_apart part⟩
  have made := LengthPair.ofLists_toList kept.disjoint
  refine ⟨⟨?_, fun covered => ?_⟩, fun pair resolved => ?_, fun fault => resolveLengths_error⟩
  · rintro ⟨pair, resolved⟩
    exact (resolveLengths_ok.1 resolved).1
  · exact ⟨kept, resolveLengths_ok.2 ⟨covered, rfl, fun x => mem_onlyLocal⟩⟩
  · obtain ⟨-, ofNational, ofLocal⟩ := resolveLengths_ok.1 resolved
    obtain rfl : kept = pair := LengthPair.ext ofNational.symm
      (LengthSet.ext fun x => mem_onlyLocal.trans (ofLocal x).symm)
    exact ⟨made, ofNational, ofLocal⟩

end Stored

end NumberingPlan

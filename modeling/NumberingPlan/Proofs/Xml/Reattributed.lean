import Mathlib.Logic.Basic
import NumberingPlan.Xml.Node

/-! Trees that differ in their attributes alone. A change of attributes, given by the tag of an
element, moves through the whole tree; searches find the same elements, changed, and the texts stay
as they are. -/

namespace NumberingPlan.Xml

/-- What becomes of the attributes of an element with a tag. -/
abbrev AttributeChange := String → List (String × String) → List (String × String)

mutual

def Node.reattributed (change : AttributeChange) : Node → Node
  | .text chars => .text chars
  | .element tag attributes content =>
    .element tag (change tag attributes) (reattributedContent change content)

def reattributedContent (change : AttributeChange) : List Node → List Node
  | [] => []
  | node :: rest => node.reattributed change :: reattributedContent change rest

end

namespace Element

/-- The element with the attributes changed inside it; its own stay. -/
def reattributedInside (element : Element) (change : AttributeChange) : Element :=
  { element with content := reattributedContent change element.content }

/-- The element with its attributes changed, and those of everything inside it. -/
def reattributed (change : AttributeChange) (element : Element) : Element :=
  ⟨element.tag, change element.tag element.attributes, reattributedContent change element.content⟩

end Element

mutual

theorem Node.elements_reattributed (change : AttributeChange) (node : Node) :
    (node.reattributed change).elements = node.elements.map (Element.reattributed change) := by
  cases node with
  | text chars => rfl
  | element tag attributes content =>
    rw [Node.reattributed, Node.elements, Node.elements, List.map_cons,
      descendants_reattributed change content]
    rfl

theorem descendants_reattributed (change : AttributeChange) (content : List Node) :
    descendants (reattributedContent change content) =
      (descendants content).map (Element.reattributed change) := by
  cases content with
  | nil => rfl
  | cons node rest =>
    rw [reattributedContent, descendants, descendants, List.map_append,
      node.elements_reattributed change, descendants_reattributed change rest]

end

mutual

theorem Node.chars_reattributed (change : AttributeChange) (node : Node) :
    (node.reattributed change).chars = node.chars := by
  cases node with
  | text chars => rfl
  | element tag attributes content => exact contentChars_reattributed change content

theorem contentChars_reattributed (change : AttributeChange) (content : List Node) :
    contentChars (reattributedContent change content) = contentChars content := by
  cases content with
  | nil => rfl
  | cons node rest =>
    rw [reattributedContent, contentChars, contentChars, node.chars_reattributed change,
      contentChars_reattributed change rest]

end

namespace Element

@[simp] theorem text_reattributed (change : AttributeChange) (element : Element) :
    (element.reattributed change).text = element.text :=
  congrArg String.ofList (contentChars_reattributed change element.content)

theorem value?_reattributed (change : AttributeChange) (element : Element) (name : String) :
    (element.reattributed change).value? name =
      (change element.tag element.attributes).lookup name := rfl

theorem findAll_reattributedInside (element : Element) (change : AttributeChange) (tag : String) :
    (element.reattributedInside change).findAll tag =
      (element.findAll tag).map (reattributed change) := by
  unfold findAll reattributedInside
  rw [descendants_reattributed, List.filter_map]
  rfl

theorem findAll_reattributed (change : AttributeChange) (element : Element) (tag : String) :
    (element.reattributed change).findAll tag = (element.findAll tag).map (reattributed change) :=
  findAll_reattributedInside element change tag

end Element

/-- The attributes with this value under the name, or without the name if there is no value. -/
def assign (name : String) (value : Option String) (attributes : List (String × String)) :
    List (String × String) :=
  (value.map (name, ·)).toList ++ attributes.filter (fun entry => entry.1 != name)

theorem lookup_dropped (name other : String) (attributes : List (String × String)) :
    (attributes.filter (fun entry => entry.1 != name)).lookup other =
      if other = name then none else attributes.lookup other := by
  induction attributes with
  | nil => simp
  | cons entry rest ih =>
    obtain ⟨key, value⟩ := entry
    rcases eq_or_ne key name with rfl | kept
    · rw [List.filter_cons_of_neg (by simp), ih]
      by_cases here : other = key
      · rw [if_pos here, if_pos here]
      · have apart : (other == key) = false := by simpa using here
        rw [if_neg here, if_neg here, List.lookup_cons, apart]
    · rw [List.filter_cons_of_pos (by simpa using kept)]
      by_cases here : other = key
      · subst here
        rw [List.lookup_cons_self, List.lookup_cons_self, if_neg kept]
      · have apart : (other == key) = false := by simpa using here
        simp only [List.lookup_cons, apart, ih]

theorem lookup_assign (name other : String) (value : Option String)
    (attributes : List (String × String)) :
    (assign name value attributes).lookup other =
      if other = name then value else attributes.lookup other := by
  unfold assign
  cases value with
  | none => simpa using lookup_dropped name other attributes
  | some text =>
    by_cases same : other = name
    · simp [same]
    · have apart : (other == name) = false := by simpa using same
      simp [List.lookup_cons, apart, lookup_dropped, same]

end NumberingPlan.Xml

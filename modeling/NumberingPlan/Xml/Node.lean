/-! Elements and the text between them. Comments and instructions leave no trace: the text on
both their sides is one text. -/

namespace NumberingPlan.Xml

inductive Node where
  | text (chars : String)
  | element (tag : String) (attributes : List (String × String)) (content : List Node)
  deriving Repr

structure Element where
  tag : String
  attributes : List (String × String)
  content : List Node
  deriving Repr

mutual

/-- The element of a node and those inside it, in document order. -/
def Node.elements : Node → List Element
  | .text _ => []
  | .element tag attributes content => ⟨tag, attributes, content⟩ :: descendants content

/-- All elements of a content, in document order. -/
def descendants : List Node → List Element
  | [] => []
  | node :: rest => node.elements ++ descendants rest

end

mutual

def Node.chars : Node → List Char
  | .text chars => chars.toList
  | .element _ _ content => contentChars content

/-- All character data of a content, that of inner elements included. -/
def contentChars : List Node → List Char
  | [] => []
  | node :: rest => node.chars ++ contentChars rest

end

/-- The elements that stand directly in a content. -/
def childElements (content : List Node) : List Element :=
  content.filterMap fun
    | .text _ => none
    | .element tag attributes inner => some ⟨tag, attributes, inner⟩

namespace Element

def text (element : Element) : String := String.ofList (contentChars element.content)

def children (element : Element) : List Element := childElements element.content

def value? (element : Element) (name : String) : Option String :=
  element.attributes.lookup name

/-- The value of an attribute, empty when it is missing. -/
def value (element : Element) (name : String) : String :=
  (element.value? name).getD ""

def has (element : Element) (name : String) : Bool :=
  (element.value? name).isSome

/-- The elements strictly inside that have the tag, in document order; a star stands for every
tag. -/
def findAll (element : Element) (tag : String) : List Element :=
  (descendants element.content).filter (fun inner => tag == "*" || inner.tag == tag)

end Element

/-- What lies inside an element is what its children are and what lies inside them. -/
theorem descendants_eq_children (content : List Node) :
    descendants content =
      (childElements content).flatMap (fun child => child :: descendants child.content) := by
  induction content with
  | nil => rfl
  | cons node rest ih =>
    cases node with
    | text chars => simpa [descendants, Node.elements, childElements] using ih
    | element tag attributes inner =>
      simp only [descendants, Node.elements, ih]
      rfl

end NumberingPlan.Xml

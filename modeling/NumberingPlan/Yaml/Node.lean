import NumberingPlan.Yaml.Token

/-! YAML documents as graphs. Every node has a number and a collection holds the numbers of its
nodes, so an alias is one number in two places, and a collection may hold itself. -/

namespace NumberingPlan.Yaml

open Text (CodePoint)

/-- The tags that have a value; all others are unknown. -/
inductive Tag where
  | null
  | bool
  | int
  | float
  | timestamp
  | binary
  | text
  | sequence
  | mapping
  | set
  | orderedMapping
  | pairs
  | merge
  | value
  | unknown (name : List Char)
  deriving DecidableEq, Repr

namespace Tag

/-- What the names of all known tags begin with. -/
def core : String := "tag:yaml.org,2002:"

def known : List (String × Tag) :=
  [("null", null), ("bool", bool), ("int", int), ("float", float), ("timestamp", timestamp),
    ("binary", binary), ("str", text), ("seq", sequence), ("map", mapping), ("set", set),
    ("omap", orderedMapping), ("pairs", pairs), ("merge", merge), ("value", value)]

def ofName (name : List Char) : Tag :=
  (known.find? (fun entry => (core ++ entry.1).toList == name)).elim (unknown name) (·.2)

/-- A collection, whose value is made of its parts' values. -/
def isCollection : Tag → Bool
  | sequence | mapping | set | orderedMapping | pairs => true
  | _ => false

end Tag

inductive Node where
  | scalar (tag : Tag) (text : List CodePoint)
  | sequence (tag : Tag) (items : List Nat)
  | mapping (tag : Tag) (entries : List (Nat × Nat))
  deriving DecidableEq, Repr

namespace Node

def tag : Node → Tag
  | scalar tag _ => tag
  | sequence tag _ => tag
  | mapping tag _ => tag

def withTag (tag : Tag) : Node → Node
  | scalar _ text => scalar tag text
  | sequence _ items => sequence tag items
  | mapping _ members => mapping tag members

def isScalar : Node → Bool
  | scalar _ _ => true
  | _ => false

end Node

/-- The nodes of a document and the number of its root. -/
structure Graph where
  nodes : Array Node
  root : Nat
  deriving DecidableEq, Repr

end NumberingPlan.Yaml

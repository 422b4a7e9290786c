/-! What a YAML document is worth to the one who reads it: the values of its nodes, as far as they
show. A node may be met in several places, and a collection may hold itself. -/

namespace NumberingPlan.Yaml

/-- The value of a scalar; `other` stands for one that is neither of those before it. -/
inductive Datum where
  | null
  | bool (value : Bool)
  | int (value : Int)
  | text (value : String)
  | other
  deriving DecidableEq, Repr

/-- What a node's value shows of itself: that of a scalar, or the members of a mapping whose keys
are texts. -/
inductive Value where
  | datum (datum : Datum)
  | mapping (members : List (String × Nat))
  | collection
  deriving DecidableEq, Repr

/-- The value of a key, the last that was given counting. -/
def lastOf (members : List (String × Nat)) (key : String) : Option Nat :=
  members.reverse.lookup key

/-- The values of the nodes that take part in a document, and the number of its root. -/
structure Document where
  values : Array (Option Value)
  root : Nat
  deriving DecidableEq, Repr

def Document.value (document : Document) (id : Nat) : Value :=
  document.values[id]?.join.getD .collection

end NumberingPlan.Yaml

import NumberingPlan.Yaml.Composer
import NumberingPlan.Yaml.Scalar

/-! The values of a YAML document. A scalar has its value at once; a collection is filled when its
turn comes, in the order in which collections are met, so that one may hold itself. Filling a
mapping changes the graph: what the mapping takes over from others becomes its own. -/

namespace NumberingPlan.Yaml

open Text (CodePoint)

/-- The graph as it is, the values so far, and the collections that are still to be filled, the
last one first. -/
structure Builder where
  nodes : Array Node
  values : Array (Option Value)
  found : List Nat := []

abbrev Build := StateT Builder (Except Fault)

namespace Build

def refuse {α : Type} (complaint : Complaint) : Build α :=
  fun _ => .error (.malformed complaint)

def node (id : Nat) : Build Node := do
  match (← get).nodes[id]? with
  | some node => return node
  | none => refuse .kindMismatch

def setNode (id : Nat) (node : Node) : Build Unit :=
  modify (fun builder => { builder with nodes := builder.nodes.setIfInBounds id node })

def setValue (id : Nat) (value : Value) : Build Unit :=
  modify (fun builder => { builder with values := builder.values.setIfInBounds id (some value) })

def hasTag (nodes : Array Node) (tag : Tag) (id : Nat) : Bool :=
  nodes[id]?.any (fun node => node.tag == tag)

/-- The text of a scalar. A mapping stands for what it has under the sign of a value; one that
stands for itself has no end. -/
def scalarText (nodes : Array Node) : Nat → Nat → Except Fault (List CodePoint)
  | 0, _ => .error (.value .endless)
  | fuel + 1, id =>
    match nodes[id]? with
    | some (.scalar _ text) => .ok text
    | some (.mapping _ members) =>
      match members.find? (fun member => hasTag nodes .value member.1) with
      | some member => scalarText nodes fuel member.2
      | none => .error (.malformed .kindMismatch)
    | _ => .error (.malformed .kindMismatch)

/-- The value of a node whose tag is that of a scalar. A time is read from the node itself. -/
def datum (nodes : Array Node) (id : Nat) (node : Node) : Except Fault Datum :=
  match node.tag with
  | .merge | .value | .unknown _ => .error (.malformed .unknownTag)
  | tag => do
    let text ← scalarText nodes (nodes.size + 1) id
    if tag == .timestamp && !node.isScalar then .error (.value .timeOfMapping)
    else tag.read text

def value (id : Nat) : Build Value := do
  let builder ← get
  match builder.values[id]?.join with
  | some value => return value
  | none =>
    let node ← node id
    if node.tag.isCollection then
      setValue id .collection
      modify (fun builder => { builder with found := id :: builder.found })
      return .collection
    else
      let datum ← datum builder.nodes id node
      setValue id (.datum datum)
      return .datum datum

def members (id : Nat) : Build (List (Nat × Nat)) := do
  match ← node id with
  | .mapping _ members => return members
  | _ => refuse .kindMismatch

def setMembers (id : Nat) (members : List (Nat × Nat)) : Build Unit := do
  setNode id (.mapping (← node id).tag members)

/-- Takes the first order to take over out of a mapping, and gives what is to be taken over. -/
def nextMerge? (id : Nat) : Build (Option Nat) := do
  let builder ← get
  let members ← members id
  let isOther (member : Nat × Nat) : Bool := !hasTag builder.nodes .merge member.1
  match members.dropWhile isOther with
  | [] => return none
  | merge :: rest =>
    setMembers id (members.takeWhile isOther ++ rest)
    return some merge.2

/-- The sign of a value is a text like any other as a key. -/
def nameValueKeys (members : List (Nat × Nat)) : Build Unit :=
  members.forM fun member => do
    if hasTag (← get).nodes .value member.1 then
      setNode member.1 ((← node member.1).withTag .text)

mutual

/-- Puts the members that a mapping takes over in front of its own. Every order to take over is
used up once, even if the mapping takes over itself, which bounds `fuel`. -/
def flatten : Nat → Nat → Build Unit
  | 0, _ => return ()
  | fuel + 1, id => do
    let taken ← takeOver fuel id
    let own ← members id
    nameValueKeys own
    setMembers id (taken ++ own)

def takeOver : Nat → Nat → Build (List (Nat × Nat))
  | 0, _ => return []
  | fuel + 1, id => do
    match ← nextMerge? id with
    | none => return []
    | some source =>
      let taken ← sourceMembers fuel source
      return taken ++ (← takeOver fuel id)

/-- What is taken over: another mapping's members, or those of several, the last ones first. -/
def sourceMembers : Nat → Nat → Build (List (Nat × Nat))
  | 0, _ => return []
  | fuel + 1, source => do
    let flat (id : Nat) : Build (List (Nat × Nat)) := do
      match ← node id with
      | .mapping _ _ =>
        flatten fuel id
        members id
      | _ => refuse .mergeSource
    match ← node source with
    | .sequence _ items => return (← items.mapM flat).reverse.flatten
    | _ => flat source

end

/-- How many numbers of nodes the graph holds. -/
def references (nodes : Array Node) : Nat :=
  nodes.foldl
    (fun count node => match node with
      | .scalar _ _ => count
      | .sequence _ items => count + items.length
      | .mapping _ members => count + 2 * members.length)
    0

/-- The text of a key, if it is one. A collection is no key. -/
def keyText (id : Nat) : Build (Option String) := do
  match ← value id with
  | .datum (.text text) => return some text
  | .datum _ => return none
  | _ => refuse .collectionAsKey

/-- The one member of an item of an ordered mapping. -/
def fillPair (id : Nat) : Build Unit := do
  match ← node id with
  | .mapping _ [(key, member)] =>
    let _ ← value key
    let _ ← value member
  | _ => refuse .kindMismatch

/-- Gives the parts of a collection their values. -/
def fill (id : Nat) : Build Unit := do
  let node ← node id
  match node.tag, node with
  | .sequence, .sequence _ items => items.forM fun item => discard (value item)
  | .orderedMapping, .sequence _ items | .pairs, .sequence _ items => items.forM fillPair
  | .mapping, .mapping _ _ | .set, .mapping _ _ =>
    flatten (3 * references (← get).nodes + 3) id
    let named ← (← members id).filterMapM fun member => do
      let key ← keyText member.1
      let _ ← value member.2
      return key.map (fun key => (key, member.2))
    if node.tag == .mapping then setValue id (.mapping named)
  | _, _ => refuse .kindMismatch

/-- Fills collections, then those that were found meanwhile. Each waits once, and `fuel` counts
collections and rounds. -/
def fillAll : Nat → List Nat → Build Unit
  | 0, _ => return ()
  | fuel + 1, [] => do
    let found := (← get).found
    if found.isEmpty then return ()
    else
      modify (fun builder => { builder with found := [] })
      fillAll fuel found.reverse
  | fuel + 1, id :: waiting => do
    fill id
    fillAll fuel waiting

end Build

def Graph.document (graph : Graph) : Except Fault Document := do
  let start : Builder :=
    { nodes := graph.nodes, values := Array.replicate graph.nodes.size none }
  let build : Build Unit := do
    let _ ← Build.value graph.root
    Build.fillAll (2 * graph.nodes.size + 2) []
  let (_, builder) ← build.run start
  .ok { values := builder.values, root := graph.root }

/-- The one document of a text; a text without one has none. -/
def load (text : List Char) : Except Fault (Option Document) := do
  match ← compose text with
  | none => .ok none
  | some graph => some <$> graph.document

end NumberingPlan.Yaml

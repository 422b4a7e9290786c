import NumberingPlan.Yaml.Resolution
import NumberingPlan.Yaml.Scanner

/-! From the tokens of a YAML text to the graph of its one document. An anchor names a node once;
an alias is the node that was named before it, which may still be open. -/

namespace NumberingPlan.Yaml

open Text (CodePoint)

/-- The handles that are known without being declared. -/
def standardHandles : List (List Char × List Char) :=
  [(['!'], ['!']), (['!', '!'], Tag.core.toList)]

structure Composer where
  tokens : List Token
  fault : Option Fault
  nodes : Array Node := #[]
  anchors : List (List Char × Nat) := []
  handles : List (List Char × List Char) := []

abbrev Compose := StateT Composer (Except Fault)

namespace Compose

def refuse {α : Type} (complaint : Complaint) : Compose α :=
  fun _ => .error (.malformed complaint)

/-- The next token. Behind those that could be read lies the fault that stopped the reading. -/
def peek : Compose Token := do
  let composer ← get
  match composer.tokens.head?, composer.fault with
  | some token, _ => return token
  | none, some fault => throw fault
  | none, none => return .streamEnd

def drop : Compose Unit :=
  modify (fun composer => { composer with tokens := composer.tokens.tail })

/-- Takes the next token if it is the given one. -/
def skip (token : Token) : Compose Bool := do
  if (← peek) = token then
    drop
    return true
  else return false

def require (token : Token) (complaint : Complaint) : Compose Unit := do
  if ← skip token then return () else refuse complaint

def add (node : Node) : Compose Nat := do
  let id := (← get).nodes.size
  modify (fun composer => { composer with nodes := composer.nodes.push node })
  return id

def set (id : Nat) (node : Node) : Compose Unit :=
  modify (fun composer => { composer with nodes := composer.nodes.setIfInBounds id node })

/-- A node that is not written. -/
def emptyNode : Compose Nat := add (.scalar .null [])

/-- An anchor names one node only. -/
def claim (anchor : Option (List Char)) : Compose Unit := do
  if let some anchor := anchor then
    if ((← get).anchors.lookup anchor).isSome then refuse .repeatedAnchor

def name (anchor : Option (List Char)) (id : Nat) : Compose Unit :=
  match anchor with
  | none => return ()
  | some anchor =>
    modify (fun composer => { composer with anchors := (anchor, id) :: composer.anchors })

/-- The node of an alias. -/
def named (anchor : List Char) : Compose Nat := do
  match (← get).anchors.lookup anchor with
  | some id => return id
  | none => refuse .unknownAlias

/-- A collection has its number and its name before its nodes are read. -/
def collection {α : Type} (anchor : Option (List Char)) (make : α → Node) (read : Compose α) :
    Compose Nat := do
  claim anchor
  let id ← emptyNode
  name anchor id
  set id (make (← read))
  return id

/-- What may stand before a node. -/
structure Properties where
  anchor : Option (List Char) := none
  tag : Option (List Char) := none

def readAnchor : Compose (Option (List Char)) := do
  match ← peek with
  | .anchor anchor =>
    drop
    return some anchor
  | _ => return none

/-- The handle, which a verbatim tag has not, and the rest of a tag. -/
abbrev WrittenTag := Option (List Char) × List Char

def readTag : Compose (Option WrittenTag) := do
  match ← peek with
  | .tag handle suffix =>
    drop
    return some (handle, suffix)
  | _ => return none

/-- A tag by its full name. -/
def fullTag : Option WrittenTag → Compose (Option (List Char))
  | none => return none
  | some (none, suffix) => return some suffix
  | some (some handle, suffix) => do
    match (← get).handles.lookup handle with
    | some tagPrefix => return some (tagPrefix ++ suffix)
    | none => refuse .tagHandle

/-- An anchor and a tag, in either order. -/
def properties : Compose Properties := do
  match ← readAnchor with
  | some anchor =>
    let tag ← readTag
    return ⟨some anchor, ← fullTag tag⟩
  | none =>
    match ← readTag with
    | none => return {}
    | some tag =>
      let anchor ← readAnchor
      return ⟨anchor, ← fullTag (some tag)⟩

namespace Properties

/-- A lone mark in place of a tag leaves the choice to the node's form. -/
def isOpen (properties : Properties) : Bool :=
  properties.tag.isNone || properties.tag == some ['!']

def collectionTag (properties : Properties) (usual : Tag) : Tag :=
  if properties.isOpen then usual else (properties.tag.map Tag.ofName).getD usual

def scalarTag (properties : Properties) (plain : Bool) (text : List CodePoint) : Tag :=
  let usual := Resolution.tagOf (text.map CodePoint.shown)
  match properties.tag with
  | none => if plain then usual else .text
  | some tag => if tag == ['!'] then usual else Tag.ofName tag

end Properties

/-- Where a node stands, which decides what it may be. Below a key, the entries of a sequence need
no indentation. -/
inductive Place where
  | flow
  | block
  | belowKey
  deriving DecidableEq, Repr

/-- Reads a node, or takes an empty one if a token stands here that ends it. -/
def orEmpty (ends : List Token) (read : Compose Nat) : Compose Nat := do
  if ends.contains (← peek) then emptyNode else read

mutual

/-- Reads a node. Every call takes a token or is made by one that did, which bounds `fuel`. -/
def node : Nat → Place → Compose Nat
  | 0, _ => refuse .content
  | fuel + 1, place => do
    match ← peek with
    | .alias anchor =>
      drop
      named anchor
    | _ =>
      let properties ← properties
      let sequence (read : Compose (List Nat)) : Compose Nat :=
        collection properties.anchor (.sequence (properties.collectionTag .sequence)) read
      let mapping (read : Compose (List (Nat × Nat))) : Compose Nat :=
        collection properties.anchor (.mapping (properties.collectionTag .mapping)) read
      let scalar (text : List CodePoint) (plain : Bool) : Compose Nat := do
        claim properties.anchor
        let id ← add (.scalar (properties.scalarTag plain text) text)
        name properties.anchor id
        return id
      match ← peek, place with
      | .blockEntry, .belowKey => sequence (entries fuel)
      | .scalar text plain, _ =>
        drop
        scalar text plain
      | .flowSequenceStart, _ =>
        drop
        sequence (flowItems fuel true)
      | .flowMappingStart, _ =>
        drop
        mapping (flowMembers fuel true)
      | .blockSequenceStart, .block | .blockSequenceStart, .belowKey =>
        drop
        sequence (blockItems fuel)
      | .blockMappingStart, .block | .blockMappingStart, .belowKey =>
        drop
        mapping (blockMembers fuel)
      | _, _ =>
        if properties.anchor.isSome || properties.tag.isSome then scalar [] true
        else refuse .content

/-- The entries of a sequence with no indentation of its own. -/
def entries : Nat → Compose (List Nat)
  | 0 => refuse .content
  | fuel + 1 => do
    if ← skip .blockEntry then
      let item ← orEmpty [.blockEntry, .key, .value, .blockEnd] (node fuel .block)
      return item :: (← entries fuel)
    else return []

def blockItems : Nat → Compose (List Nat)
  | 0 => refuse .content
  | fuel + 1 => do
    if ← skip .blockEntry then
      let item ← orEmpty [.blockEntry, .blockEnd] (node fuel .block)
      return item :: (← blockItems fuel)
    else
      require .blockEnd .blockEnd
      return []

def blockMembers : Nat → Compose (List (Nat × Nat))
  | 0 => refuse .content
  | fuel + 1 => do
    if ← skip .key then
      let ends := [Token.key, .value, .blockEnd]
      let key ← orEmpty ends (node fuel .belowKey)
      let value ← if ← skip .value then orEmpty ends (node fuel .belowKey) else emptyNode
      return (key, value) :: (← blockMembers fuel)
    else
      require .blockEnd .blockEnd
      return []

/-- The items of a sequence in brackets. A key among them is a mapping of one member. -/
def flowItems : Nat → Bool → Compose (List Nat)
  | 0, _ => refuse .content
  | fuel + 1, first => do
    if ← skip .flowSequenceEnd then return []
    else
      if !first then require .flowEntry .flowEnd
      if ← skip .key then
        let item ← collection none (.mapping .mapping) do
          let key ← orEmpty [.value, .flowEntry, .flowSequenceEnd] (node fuel .flow)
          let value ←
            if ← skip .value then orEmpty [.flowEntry, .flowSequenceEnd] (node fuel .flow)
            else emptyNode
          return [(key, value)]
        return item :: (← flowItems fuel false)
      else if ← skip .flowSequenceEnd then return []
      else
        let item ← node fuel .flow
        return item :: (← flowItems fuel false)

def flowMembers : Nat → Bool → Compose (List (Nat × Nat))
  | 0, _ => refuse .content
  | fuel + 1, first => do
    if ← skip .flowMappingEnd then return []
    else
      if !first then require .flowEntry .flowEnd
      if ← skip .key then
        let key ← orEmpty [.value, .flowEntry, .flowMappingEnd] (node fuel .flow)
        let value ←
          if ← skip .value then orEmpty [.flowEntry, .flowMappingEnd] (node fuel .flow)
          else emptyNode
        return (key, value) :: (← flowMembers fuel false)
      else if ← skip .flowMappingEnd then return []
      else
        let key ← node fuel .flow
        let value ← emptyNode
        return (key, value) :: (← flowMembers fuel false)

end

/-- Reads the directives of a document: one version at most, and each handle once. -/
def directivesFrom : Nat → Bool → Compose Unit
  | 0, _ => return ()
  | fuel + 1, versionSeen => do
    match ← peek with
    | .directive (.version major) =>
      drop
      if versionSeen || major != 1 then refuse .version else directivesFrom fuel true
    | .directive (.tag handle tagPrefix) =>
      drop
      if ((← get).handles.lookup handle).isSome then refuse .tagHandle
      else
        modify (fun composer =>
          { composer with handles := (handle, tagPrefix) :: composer.handles })
        directivesFrom fuel versionSeen
    | .directive .other =>
      drop
      directivesFrom fuel versionSeen
    | _ => return ()

/-- The standard handles stand behind the declared ones. -/
def useStandardHandles : Compose Unit :=
  modify (fun composer => { composer with handles := composer.handles ++ standardHandles })

/-- Reads the head of a document that is marked as one. -/
def documentHead (fuel : Nat) : Compose Unit := do
  modify (fun composer => { composer with handles := [] })
  directivesFrom fuel false
  useStandardHandles
  require .documentStart .documentStart

def skipDocumentEnds : Nat → Compose Unit
  | 0 => return ()
  | fuel + 1 => do
    if ← skip .documentEnd then skipDocumentEnds fuel else return ()

/-- Whether a token begins a document that is marked as one. -/
def opensDocument : Token → Bool
  | .directive _ | .documentStart => true
  | _ => false

/-- The root of a document that is marked as one; it may be empty. -/
def markedRoot (fuel : Nat) : Compose Nat := do
  documentHead fuel
  let next ← peek
  if opensDocument next || next = .documentEnd || next = .streamEnd then emptyNode
  else node fuel .block

/-- Reads the one document of a stream, if it has any. The head of a second one is read before it
is refused. -/
def document (fuel : Nat) : Compose (Option Nat) := do
  let first ← peek
  if first = .streamEnd then return none
  else
    let root ←
      if opensDocument first then markedRoot fuel
      else do
        useStandardHandles
        node fuel .block
    skipDocumentEnds fuel
    if ← skip .streamEnd then return some root
    else
      documentHead fuel
      refuse .severalDocuments

end Compose

/-- The graph of the one document of a text; a text without one has none. -/
def compose (text : List Char) : Except Fault (Option Graph) := do
  let tokens := tokens text
  let (root, composer) ← (Compose.document (2 * tokens.ready.length + 4)).run
    { tokens := tokens.ready, fault := tokens.fault }
  .ok (root.map (fun root => { nodes := composer.nodes, root }))

end NumberingPlan.Yaml

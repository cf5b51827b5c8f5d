import CompilePolicy.Document.Key
import CompilePolicy.Document.Ordered
import CompilePolicy.Document.Store
import CompilePolicy.Yaml.Node.Merging
import CompilePolicy.Yaml.Scalar.Value

/-!
# The value of a document

Scalars are read under their tags, and collections become containers. A container
is begun empty where it is first met, and containers are filled in the order in
which they were begun, so that the first fault in that order is reported. A node is
read once: wherever it stands, it is the same value.

Filling a mapping merges what stands under its merge keys for good, so that what is
filled later finds the merged entries.
-/

namespace CompilePolicy.Yaml

open CompilePolicy.Document

/-- The state of the reading. -/
structure Making where
  nodes : Nodes
  /-- What was made of each node. -/
  made : Array (Option Part)
  containers : Store := #[]
  /-- The nodes whose containers were begun, with their numbers, in order. -/
  begun : Array (NodeId × Nat) := #[]

/-- A step of the reading. -/
abbrev InMaking (α : Type) := StateT Making (Except Fault) α

/-- The shape of the container that a tag asks for, as an empty one. -/
def emptyContainer? : Tag → Option Container
  | .sequence => some (.list [])
  | .omap => some (.list [])
  | .pairs => some (.list [])
  | .set => some (.set [])
  | .mapping => some (.map [])
  | _ => none

/-- The value under the key that stands for the whole mapping. -/
def Nodes.whole? (nodes : Nodes) (entries : List NodeEntry) : Option NodeId :=
  (entries.find? fun entry => nodes.tag entry.1 = .value).map (·.2)

/-- The text of a node where a scalar is asked for: its own, or the one under the key
that stands for the whole mapping. The number of nodes bounds how far it is to be
looked for, unless a mapping stands for itself. -/
def Nodes.text (nodes : Nodes) : Nat → NodeId → Except Fault String
  | 0, _ => .error .endless
  | bound + 1, id =>
    match nodes.content id with
    | .scalar text => .ok text
    | .sequence _ => .error .malformed
    | .mapping entries =>
      match nodes.whole? entries with
      | some value => nodes.text bound value
      | none => .error .malformed

/-- The value of a node with the tag of a scalar. A time has to be written as a scalar
itself. -/
def Nodes.scalar (nodes : Nodes) (id : NodeId) : Except Fault Value :=
  let tag := nodes.tag id
  if isReadable tag then
    match nodes.text (nodes.size + 1) id with
    | .error fault => .error fault
    | .ok text =>
      if tag = .timestamp ∧ nodes.isMapping id then .error .timeInMapping
      else scalarValue tag text
  else .error .malformed

namespace Making

/-- Adds a container and gives its number. -/
def addContainer (container : Container) : InMaking Nat := fun state =>
  .ok (state.containers.size, { state with containers := state.containers.push container })

/-- Gives a container its parts. -/
def setContainer (number : Nat) (container : Container) : InMaking Unit :=
  modify fun state =>
    { state with containers := state.containers.setIfInBounds number container }

/-- What is made of a node: a scalar is read, and a container is begun. -/
def makePart (id : NodeId) : InMaking Part := do
  let state ← get
  match emptyContainer? (state.nodes.tag id) with
  | some empty =>
    let number ← addContainer empty
    modify fun state => { state with begun := state.begun.push (id, number) }
    return .container number
  | none => return .plain (← state.nodes.scalar id)

/-- What was made of a node, or what is made of it now. -/
def part (id : NodeId) : InMaking Part := do
  match ((← get).made[id]?).join with
  | some known => return known
  | none =>
    let made ← makePart id
    modify fun state => { state with made := state.made.setIfInBounds id (some made) }
    return made

/-- The key that a node stands for. Containers are no keys, and what is no number is
another one in every node, unless it is written in the usual way. -/
def key (id : NodeId) : InMaking Key := do
  match ← part id with
  | .container _ => throw .malformed
  | .plain value =>
    let nodes := (← get).nodes
    let isUsual := (nodes.text (nodes.size + 1) id).toOption.any isUsualNotNumber
    return { value, mark := if isNotNumber value && !isUsual then id + 1 else 0 }

/-- The entries of a mapping with what it merges. A key that comes again changes the
value in its first place. -/
def entries (id : NodeId) : InMaking (List (Key × Part)) := do
  let state ← get
  if state.nodes.isMapping id then
    let merged ← state.nodes.merge id
    modify fun state => { state with nodes := merged }
    (merged.entries id).foldlM (fun known (keyNode, valueNode) => do
      let found ← key keyNode
      let value ← part valueNode
      return setBy Key.same known found value) []
  else throw .malformed

/-- The items of a sequence. -/
def items (id : NodeId) : InMaking (List NodeId) := do
  match (← get).nodes.content id with
  | .sequence found => return found
  | _ => throw .malformed

/-- A pair: the one entry of a mapping, as it stands. -/
def pair (id : NodeId) : InMaking Part := do
  match (← get).nodes.content id with
  | .mapping [(first, second)] =>
    let one ← part first
    let other ← part second
    return .container (← addContainer (.pair one other))
  | _ => throw .malformed

/-- The parts of a container that was begun for a node. -/
def fill (id : NodeId) : InMaking Container := do
  match (← get).nodes.tag id with
  | .sequence => return .list (← (← items id).mapM part)
  | .mapping => return .map ((← entries id).map fun (key, value) => (key.value, value))
  | .set => return .set ((← entries id).map fun (key, _) => key.value)
  | _ => return .list (← (← items id).mapM pair)

/-- Fills the containers that were begun, from a position in their order on. A node
is begun once, so the number of nodes bounds their number. -/
def fillFrom : Nat → Nat → InMaking Unit
  | 0, _ => return ()
  | bound + 1, position => do
    match (← get).begun[position]? with
    | none => return ()
    | some (id, number) =>
      setContainer number (← fill id)
      fillFrom bound (position + 1)

/-- Reads the whole document. -/
def whole (graph : NodeGraph) : InMaking Part := do
  let root ← part graph.root
  fillFrom (graph.nodes.size + 1) 0
  return root

end Making

/-- The value of a document. -/
def NodeGraph.value (graph : NodeGraph) : Except Fault Value :=
  let begun : Making :=
    { nodes := graph.nodes, made := Array.replicate graph.nodes.size none }
  ((Making.whole graph).run begun).map fun (root, state) => state.containers.value root

end CompilePolicy.Yaml

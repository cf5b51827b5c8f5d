import CompilePolicy.Yaml.Node
import CompilePolicy.Yaml.Scalar.Resolution
import CompilePolicy.Yaml.Token

/-!
# The nodes of a document

Builds the nodes that tokens describe. Where the grammar asks for a node and
none is written, an empty plain scalar stands. A collection has its number, and its
anchor is known, as soon as it begins, so that it can contain itself.

Nodes nest, so the functions carry a bound on their depth, which is computed
from the number of tokens.
-/

namespace CompilePolicy.Yaml

/-- What is known between two nodes. -/
structure Composition where
  tokens : List Token
  /-- The tag handles of the document with their meanings. -/
  handles : List (String × String) := defaultHandles
  anchors : List (String × NodeId) := []
  nodes : Nodes := #[]

/-- A step that reads tokens. -/
abbrev Composing (α : Type) := StateT Composition (Except Fault) α

namespace Composition

/-- Refuses the next token. -/
def refuse {α : Type} : Composing α := fun state =>
  match state.tokens with
  | .broken fault :: _ => .error fault
  | _ => .error .malformed

/-- The next token. -/
def peek : Composing (Option Token) := fun state =>
  .ok (state.tokens.head?, state)

/-- Goes past the next token. -/
def skip : Composing Unit := fun state =>
  .ok ((), { state with tokens := state.tokens.drop 1 })

/-- Goes past the next token, which has to be the given one. -/
def expect (token : Token) : Composing Unit := do
  if (← peek) == some token then skip else refuse

/-- Whether the next token is one of those given. -/
def isNext (tokens : List Token) : Composing Bool := do
  return (← peek).any tokens.contains

/-- Adds a node. -/
def add (node : Node) : Composing NodeId := fun state =>
  .ok (state.nodes.size, { state with nodes := state.nodes.push node })

/-- The node where none is written. -/
def emptyNode : Composing NodeId :=
  add ⟨.null, .scalar ""⟩

/-- What stands in front of a node. -/
structure Properties where
  anchor : Option String := none
  tag : Option TagName := none

/-- Reads an anchor, if one is next. -/
def takeAnchor : Composing (Option String) := do
  match ← peek with
  | some (.anchor name) => skip; return some name
  | _ => return none

/-- Reads a tag, if one is next. -/
def takeTag : Composing (Option TagName) := do
  match ← peek with
  | some (.tag name) => skip; return some name
  | _ => return none

/-- Reads an anchor and a tag in either order. -/
def takeProperties : Composing Properties := do
  match ← takeAnchor with
  | some anchor => return { anchor, tag := ← takeTag }
  | none =>
    match ← takeTag with
    | some tag => return { tag, anchor := ← takeAnchor }
    | none => return {}

/-- The tag in full. The handle has to be known. -/
def fullTag (name : TagName) : Composing String := do
  match name.handle with
  | none => return name.suffix
  | some handle =>
    match (← get).handles.lookup handle with
    | some meaning => return meaning ++ name.suffix
    | none => refuse

/-- Whether a tag leaves the meaning open. -/
def isOpen (tag : Option String) : Bool :=
  tag == none || tag == some "!"

/-- The tag of a scalar. -/
def scalarTag (tag : Option String) (text : String) (isPlain : Bool) : Tag :=
  match tag with
  | none => if isPlain then plainTag text else .string
  | some written => if isOpen tag then plainTag text else .ofText written

/-- The tag of a collection. -/
def collectionTag (tag : Option String) (usual : Tag) : Tag :=
  match tag with
  | none => usual
  | some written => if isOpen tag then usual else .ofText written

/-- Makes an anchor known. It cannot be given twice. -/
def bind (anchor : Option String) (id : NodeId) : Composing Unit := do
  match anchor with
  | none => return ()
  | some name =>
    if ((← get).anchors.lookup name).isSome then throw .malformed
    else modify fun state => { state with anchors := (name, id) :: state.anchors }

/-- The node that an alias names. -/
def resolve (name : String) : Composing NodeId := do
  match (← get).anchors.lookup name with
  | none => throw .malformed
  | some id => return id

/-- A scalar with its anchor. -/
def addScalar (anchor : Option String) (tag : Tag) (text : String) : Composing NodeId := do
  let id ← add ⟨tag, .scalar text⟩
  bind anchor id
  return id

/-- A collection with its anchor, whose content is read by `content`. -/
def addCollection (anchor : Option String) (tag : Tag) (content : Composing NodeContent) :
    Composing NodeId := do
  let id ← add ⟨tag, .sequence []⟩
  bind anchor id
  let found ← content
  modify fun state => { state with nodes := state.nodes.setContent id found }
  return id

/-- Where a node stands, which decides what collections can begin there. -/
inductive Position where
  | block
  /-- Also a block sequence that is not indented. -/
  | inMapping
  | flow
deriving DecidableEq

/-- Whether an item of a sequence that is not indented ends here. -/
def endsItem : List Token :=
  [.blockEntry, .key, .value, .blockEnd]

/-- Whether a key or a value in a block mapping ends here. -/
def endsEntry : List Token :=
  [.key, .value, .blockEnd]

mutual

/-- Reads a node. -/
def node : Nat → Position → Composing NodeId
  | 0, _ => refuse
  | bound + 1, position => do
    if let some (.alias name) ← peek then
      skip
      return ← resolve name
    let properties ← takeProperties
    let tag ← properties.tag.mapM fullTag
    let sequence (items : Composing (List NodeId)) : Composing NodeId :=
      addCollection properties.anchor (collectionTag tag .sequence) (.sequence <$> items)
    let mapping (entries : Composing (List NodeEntry)) : Composing NodeId :=
      addCollection properties.anchor (collectionTag tag .mapping) (.mapping <$> entries)
    match ← peek with
    | some (.scalar text isPlain) =>
      skip
      addScalar properties.anchor (scalarTag tag text isPlain) text
    | some .flowSequenceStart => skip; sequence (flowItems bound true)
    | some .flowMappingStart => skip; mapping (flowEntries bound true)
    | some .blockSequenceStart =>
      if position = .flow then refuse else skip; sequence (blockItems bound)
    | some .blockMappingStart =>
      if position = .flow then refuse else skip; mapping (blockEntries bound)
    | some .blockEntry =>
      if position = .inMapping then sequence (openItems bound)
      else emptyOrRefuse properties tag
    | _ => emptyOrRefuse properties tag

/-- An empty scalar, if something stands in front of it. -/
def emptyOrRefuse (properties : Properties) (tag : Option String) : Composing NodeId := do
  if properties.anchor.isNone && properties.tag.isNone then refuse
  else
    match ← peek with
    | some (.broken fault) => throw fault
    | _ => addScalar properties.anchor (scalarTag tag "" true) ""

/-- Reads the items of an indented block sequence. -/
def blockItems : Nat → Composing (List NodeId)
  | 0 => refuse
  | bound + 1 => do
    if ← isNext [.blockEntry] then
      skip
      let item ← if ← isNext [.blockEntry, .blockEnd] then emptyNode else node bound .block
      return item :: (← blockItems bound)
    else
      expect .blockEnd
      return []

/-- Reads the items of a block sequence that is not indented. -/
def openItems : Nat → Composing (List NodeId)
  | 0 => refuse
  | bound + 1 => do
    if ← isNext [.blockEntry] then
      skip
      let item ← if ← isNext endsItem then emptyNode else node bound .block
      return item :: (← openItems bound)
    else return []

/-- Reads the value of a block mapping's entry. -/
def blockValue : Nat → Composing NodeId
  | 0 => refuse
  | bound + 1 => do
    if ← isNext [.value] then
      skip
      if ← isNext endsEntry then emptyNode else node bound .inMapping
    else emptyNode

/-- Reads the entries of a block mapping. -/
def blockEntries : Nat → Composing (List NodeEntry)
  | 0 => refuse
  | bound + 1 => do
    if ← isNext [.key] then
      skip
      let key ← if ← isNext endsEntry then emptyNode else node bound .inMapping
      let value ← blockValue bound
      return (key, value) :: (← blockEntries bound)
    else
      expect .blockEnd
      return []

/-- Reads the value of an entry in a flow collection that `ending` ends. -/
def flowValue (ending : Token) : Nat → Composing NodeId
  | 0 => refuse
  | bound + 1 => do
    if ← isNext [.value] then
      skip
      if ← isNext [.flowEntry, ending] then emptyNode else node bound .flow
    else emptyNode

/-- Reads the entry after a key's mark in a flow collection. -/
def markedEntry (ending : Token) : Nat → Composing NodeEntry
  | 0 => refuse
  | bound + 1 => do
    let key ← if ← isNext [.value, .flowEntry, ending] then emptyNode else node bound .flow
    let value ← flowValue ending bound
    return (key, value)

/-- Reads the items of a flow sequence. Between two items stands a comma, and
one entry can be written like an entry of a mapping. -/
def flowItems : Nat → Bool → Composing (List NodeId)
  | 0, _ => refuse
  | bound + 1, isFirst => do
    if ← isNext [.flowSequenceEnd] then
      skip
      return []
    else
      unless isFirst do expect .flowEntry
      if ← isNext [.key] then
        skip
        let entry ← markedEntry .flowSequenceEnd bound
        let item ← add ⟨.mapping, .mapping [entry]⟩
        return item :: (← flowItems bound false)
      else if ← isNext [.flowSequenceEnd] then
        skip
        return []
      else
        let item ← node bound .flow
        return item :: (← flowItems bound false)

/-- Reads the entries of a flow mapping. -/
def flowEntries : Nat → Bool → Composing (List NodeEntry)
  | 0, _ => refuse
  | bound + 1, isFirst => do
    if ← isNext [.flowMappingEnd] then
      skip
      return []
    else
      unless isFirst do expect .flowEntry
      if ← isNext [.key] then
        skip
        let entry ← markedEntry .flowMappingEnd bound
        return entry :: (← flowEntries bound false)
      else if ← isNext [.flowMappingEnd] then
        skip
        return []
      else
        let key ← node bound .flow
        let value ← emptyNode
        return (key, value) :: (← flowEntries bound false)

end

/-- Reads the directives in front of a document. The version is given once and
has to be one, and a handle is given once. -/
def directives : Nat → Bool → List (String × String) → Composing (List (String × String))
  | 0, _, _ => refuse
  | bound + 1, hasVersion, handles => do
    match ← peek with
    | some (.directive directive) =>
      skip
      match directive with
      | .version major =>
        if hasVersion || major != 1 then throw .malformed else directives bound true handles
      | .handle handle meaning =>
        if (handles.lookup handle).isSome then throw .malformed
        else directives bound hasVersion (handles ++ [(handle, meaning)])
      | .ignored => directives bound hasVersion handles
    | _ => return handles

/-- Goes past the marks at the ends of documents. -/
def skipEnds : Nat → Composing Unit
  | 0 => return ()
  | bound + 1 => do
    if ← isNext [.documentEnd] then
      skip
      skipEnds bound

/-- What a document can begin with besides its node. -/
def beginsExplicitly (token : Token) : Bool :=
  match token with
  | .directive _ => true
  | .documentStart => true
  | .streamEnd => true
  | .broken _ => true
  | _ => false

/-- Whether a document whose start is marked has no node. -/
def hasNoNode (token : Token) : Bool :=
  match token with
  | .directive _ => true
  | .documentStart => true
  | .documentEnd => true
  | .streamEnd => true
  | _ => false

/-- Nothing follows the document. What stands in front of a further one is read
before it is refused. -/
def endStream (bound : Nat) (root : NodeId) : Composing (Option NodeId) := do
  skipEnds bound
  if ← isNext [.streamEnd] then return some root
  let _ ← directives bound false []
  refuse

/-- Reads the one document of a text, if there is any. -/
def document (bound : Nat) : Composing (Option NodeId) := do
  if (← peek).all beginsExplicitly then
    if ← isNext [.streamEnd] then return none
    let handles ← directives bound false []
    expect .documentStart
    modify fun state => { state with handles := handles ++ defaultHandles }
    let root ← if (← peek).any hasNoNode then emptyNode else node bound .block
    endStream bound root
  else
    let root ← node bound .block
    endStream bound root

end Composition

/-- The one document that tokens describe, if there is any. -/
def NodeGraph.ofTokens? (tokens : List Token) : Except Fault (Option NodeGraph) :=
  ((Composition.document (4 * tokens.length + 8)).run { tokens }).map fun (root?, state) =>
    root?.map fun root => { nodes := state.nodes, root }

end CompilePolicy.Yaml

import CompilePolicy.Yaml.Tag

/-!
# Nodes

What a document describes, before its scalars are read. The nodes of a document
have numbers, and a collection names the nodes in it by theirs. An alias is the
number of the node that it names, so a node can stand in several places, and a
collection can stand in itself.
-/

namespace CompilePolicy.Yaml

/-- The number of a node in its document. -/
abbrev NodeId := Nat

/-- A key and a value. -/
abbrev NodeEntry := NodeId × NodeId

/-- What a node consists of. -/
inductive NodeContent where
  | scalar (text : String)
  | sequence (items : List NodeId)
  | mapping (entries : List NodeEntry)
deriving DecidableEq, Repr

/-- A node with its tag. -/
structure Node where
  tag : Tag
  content : NodeContent
deriving DecidableEq, Repr

/-- The nodes of a document, by number. -/
abbrev Nodes := Array Node

/-- A document: its nodes, and the one that stands for the whole. -/
structure NodeGraph where
  nodes : Nodes
  root : NodeId
deriving DecidableEq, Repr

namespace Nodes

/-- The tag of a node. -/
def tag (nodes : Nodes) (id : NodeId) : Tag :=
  match nodes[id]? with
  | some node => node.tag
  | none => .unknown

/-- What a node consists of. -/
def content (nodes : Nodes) (id : NodeId) : NodeContent :=
  match nodes[id]? with
  | some node => node.content
  | none => .scalar ""

/-- The entries of a mapping. -/
def entries (nodes : Nodes) (id : NodeId) : List NodeEntry :=
  match nodes.content id with
  | .mapping entries => entries
  | _ => []

/-- Whether a node is a mapping. -/
def isMapping (nodes : Nodes) (id : NodeId) : Bool :=
  match nodes.content id with
  | .mapping _ => true
  | _ => false

/-- Gives a node another content. -/
def setContent (nodes : Nodes) (id : NodeId) (content : NodeContent) : Nodes :=
  nodes.modify id fun node => { node with content }

/-- Gives a node another tag. -/
def setTag (nodes : Nodes) (id : NodeId) (tag : Tag) : Nodes :=
  nodes.modify id fun node => { node with tag }

end Nodes

end CompilePolicy.Yaml

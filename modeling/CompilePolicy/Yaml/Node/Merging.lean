import CompilePolicy.Yaml.Fault
import CompilePolicy.Yaml.Node

/-!
# Merging

A mapping takes over the entries of the mappings that stand under its merge keys.
They come before its own entries, so that its own win, and of several mappings in
one list the first wins. Merging changes the mapping itself: wherever it stands,
it has the entries from then on.

A mapping can be merged into itself while it is merged. A merge key is taken away
before what stands under it is looked at, so every mapping gives what it has at
that moment, and there is an end.
-/

namespace CompilePolicy.Yaml

namespace Nodes

/-- What stands under the first merge key, and the other entries. -/
def takeMerge? (nodes : Nodes) : List NodeEntry → Option (NodeId × List NodeEntry)
  | [] => none
  | (key, value) :: rest =>
    if nodes.tag key = .merge then some (value, rest)
    else (nodes.takeMerge? rest).map fun (source, others) => (source, (key, value) :: others)

/-- The key that stands for the whole mapping is a string where entries are read one
by one. -/
def nameKey (nodes : Nodes) (entry : NodeEntry) : Nodes :=
  if nodes.tag entry.1 = .value then nodes.setTag entry.1 .string else nodes

/-- Puts entries in front of those of a mapping. -/
def putInFront (nodes : Nodes) (id : NodeId) (front : List NodeEntry) : Nodes :=
  let entries := front ++ nodes.entries id
  entries.foldl nameKey (nodes.setContent id (.mapping entries))

/-- Merges into each of the mappings in a list, where `merge` merges into one, and
collects their entries, those of the first mapping last. -/
def mergeEach (merge : NodeId → Nodes → Except Fault Nodes) :
    List NodeId → List NodeEntry → Nodes → Except Fault (List NodeEntry × Nodes)
  | [], found, nodes => .ok (found, nodes)
  | item :: rest, found, nodes =>
    if nodes.isMapping item then
      match merge item nodes with
      | .error fault => .error fault
      | .ok merged => mergeEach merge rest (merged.entries item ++ found) merged
    else .error .malformed

/-- The mappings that stand under a merge key: one, or a list of them. -/
def sources (nodes : Nodes) (id : NodeId) : Except Fault (List NodeId) :=
  match nodes.content id with
  | .mapping _ => .ok [id]
  | .sequence items => .ok items
  | .scalar _ => .error .malformed

/-- Merges what stands under the merge keys of a mapping, after `front` was found under
earlier ones. Each step takes a merge key away, so their number bounds the depth. -/
def mergeFrom : Nat → List NodeEntry → NodeId → Nodes → Except Fault Nodes
  | 0, _, _, nodes => .ok nodes
  | bound + 1, front, id, nodes =>
    match nodes.takeMerge? (nodes.entries id) with
    | none => .ok (nodes.putInFront id front)
    | some (source, others) => do
      let items ← nodes.sources source
      let (found, merged) ←
        mergeEach (mergeFrom bound []) items [] (nodes.setContent id (.mapping others))
      mergeFrom bound (front ++ found) id merged

/-- The number of entries of all mappings. -/
def entryCount (nodes : Nodes) : Nat :=
  nodes.foldl (fun count node =>
    match node.content with
    | .mapping entries => count + entries.length
    | _ => count) 0

/-- Merges what stands under the merge keys of a mapping. -/
def merge (nodes : Nodes) (id : NodeId) : Except Fault Nodes :=
  mergeFrom (nodes.entryCount + 1) [] id nodes

end Nodes

end CompilePolicy.Yaml

/-!
# Tags

What a node stands for. Tags of the language's own have a meaning; a node with
any other tag stands for nothing that can be read.
-/

namespace CompilePolicy.Yaml

/-- The meaning of a tag. -/
inductive Tag where
  | null
  | bool
  | int
  | float
  | binary
  | timestamp
  | omap
  | pairs
  | set
  | string
  | sequence
  | mapping
  /-- A key under which entries of other mappings are taken over. -/
  | merge
  /-- A key whose value stands for the whole mapping where a scalar is read. -/
  | value
  | unknown
deriving DecidableEq, Repr

/-- What the tags of the language begin with. -/
def tagRoot : String := "tag:yaml.org,2002:"

/-- The tags of the language by name. -/
def namedTags : List (String × Tag) :=
  [("null", .null), ("bool", .bool), ("int", .int), ("float", .float), ("binary", .binary),
   ("timestamp", .timestamp), ("omap", .omap), ("pairs", .pairs), ("set", .set), ("str", .string),
   ("seq", .sequence), ("map", .mapping), ("merge", .merge), ("value", .value)]

/-- The meaning of a tag in full. -/
def Tag.ofText (text : String) : Tag :=
  match namedTags.find? fun named => tagRoot ++ named.1 == text with
  | some (_, tag) => tag
  | none => .unknown

/-- The handles that every document knows. -/
def defaultHandles : List (String × String) :=
  [("!", "!"), ("!!", tagRoot)]

end CompilePolicy.Yaml

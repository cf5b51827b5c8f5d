import CompilePolicy.Document.Ordered
import CompilePolicy.Document.Value
import CompilePolicy.Tree.Basic

/-!
# Diagnostics

A diagnostic reports one violation: what the host says to the user, at which
node, by which rule, in which class and unit. A rule can attach further named
values. Whoever makes a diagnostic names its rule and class; nothing is filled in
for those who do not.
-/

namespace CompilePolicy

open Document

/-- What a diagnostic is about: a node of the tree, or any value that a caller
puts in its place. -/
inductive Subject where
  | node (node : Node)
  | value (value : Value)

/-- The kind of a subject. -/
def Subject.kind : Subject → String
  | .node visited => visited.kind
  | .value other => other.typeName

/-- The name of a subject; a value that is no node has none. -/
def Subject.name : Subject → String
  | .node visited => visited.name
  | .value _ => ""

/-- A reported violation. -/
structure Diagnostic where
  message : String
  subject : Subject
  ruleId : String := ""
  owner : String := ""
  unit : String := ""
  metadata : List (String × Value) := []

/-- The diagnostic that a rule makes at a node of a class, with the rule and the class
named. The unit is not known to a rule. -/
def Diagnostic.attributed (ruleId : String) (node : Node) (owner : ClassDecl) (message : String)
    (metadata : List (String × Value) := []) : Diagnostic where
  message
  subject := .node node
  ruleId
  owner := owner.name
  metadata

/-- The names under which nothing can be attached, since they name what every
diagnostic is made of. -/
def takenNames : List String :=
  ["self", "node", "owner", "message"]

/-- Makes a diagnostic with attached values. It fails with a text at the first name that
is taken. -/
def Diagnostic.create (ruleId : String) (node : Node) (owner : ClassDecl) (message : String)
    (metadata : List (String × Value)) : Except String Diagnostic :=
  match metadata.find? fun attached => takenNames.contains attached.1 with
  | some (name, _) =>
    .error ("BaseRule.create_diagnostic() got multiple values for argument '" ++ name ++ "'")
  | none => .ok (.attributed ruleId node owner message metadata)

/-- The named fields of a diagnostic in order. Attached values come after the
fixed fields and replace those of the same name in place. -/
def Diagnostic.fields (diagnostic : Diagnostic) : List (String × Value) :=
  diagnostic.metadata.foldl (fun fields attached => setField fields attached.1 attached.2)
    [("unit", .string diagnostic.unit),
     ("owner", .string diagnostic.owner),
     ("node_kind", .string diagnostic.subject.kind),
     ("node_name", .string diagnostic.subject.name),
     ("rule_id", .string diagnostic.ruleId),
     ("message", .string diagnostic.message)]

end CompilePolicy

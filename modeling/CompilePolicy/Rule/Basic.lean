import CompilePolicy.Policy.Configuration
import CompilePolicy.Rule.Diagnostic

/-!
# Rules

A rule looks at the nodes of one scope. Under a configuration it applies or
not, and its check of a node gives diagnostics or fails. The scopes are the kinds
of nodes in the order in which a class is walked.
-/

namespace CompilePolicy

/-- The kinds of nodes that a rule can look at. -/
inductive Scope where
  | ofClass
  | ofField
  | ofMethod
  | ofParameter
deriving DecidableEq, Repr

/-- The scopes in walk order. -/
def Scope.all : List Scope :=
  [.ofClass, .ofField, .ofMethod, .ofParameter]

/-- The name of a scope. -/
def Scope.name : Scope → String
  | .ofClass => "class"
  | .ofField => "field"
  | .ofMethod => "method"
  | .ofParameter => "parameter"

/-- The place of a scope in the walk. -/
def Scope.position : Scope → Nat
  | .ofClass => 0
  | .ofField => 1
  | .ofMethod => 2
  | .ofParameter => 3

/-- The scope of a name. -/
def Scope.ofName? (name : String) : Option Scope :=
  Scope.all.find? (·.name == name)

/-- The scope of a node. -/
def Node.scope : Node → Scope
  | .ofClass _ => .ofClass
  | .ofField _ => .ofField
  | .ofMethod _ => .ofMethod
  | .ofParameter _ => .ofParameter

/-- A rule. Its check sees the configuration, a node of its scope and the class
that the node belongs to. It gives new diagnostics, which name the rule and the class
that it chooses to name, or fails with a text. -/
structure Rule where
  id : String
  scope : Scope
  /-- Where the rule stands among the rules of its scope. -/
  order : Int := 0
  description : String := "Base rule"
  applies : Configuration → Bool := fun _ => true
  check : Configuration → Node → ClassDecl → Except String (List Diagnostic)

theorem Scope.ofName?_name (scope : Scope) : Scope.ofName? scope.name = some scope := by
  cases scope <;> decide

theorem Node.scope_name (node : Node) : node.scope.name = node.kind := by
  cases node <;> rfl

end CompilePolicy

import CompilePolicy.Rule.BuiltIn

/-!
# The rule registry

Rules are registered by id. A rule registered again under a known id takes the
place of the old one. Listings go by scope in walk order, then by the order
that rules ask for, and rules that agree on both stand as they were first
registered.
-/

namespace CompilePolicy

/-- The registered rules, in the order in which their ids were first
registered. -/
structure Registry where
  rules : List Rule

namespace Registry

/-- Puts a rule in the place of the one with its id, or at the end. -/
def replace (rule : Rule) : List Rule → List Rule
  | [] => [rule]
  | old :: rest => if old.id = rule.id then rule :: rest else old :: replace rule rest

/-- Registers a rule. -/
def insert (registry : Registry) (rule : Rule) : Registry :=
  ⟨replace rule registry.rules⟩

/-- The registry with the built-in rules. -/
def builtIn : Registry :=
  builtInRules.foldl insert ⟨[]⟩

/-- A scope name that no node has. -/
structure UnknownScope where
  ruleId : String
  scopeName : String
deriving DecidableEq, Repr

/-- The message for an unknown scope. -/
def UnknownScope.message (fault : UnknownScope) : String :=
  "Rule " ++ fault.ruleId ++ " has unknown scope '" ++ fault.scopeName ++ "'"

/-- Registers a rule whose scope is given by name. An unknown name registers
nothing. -/
def register (registry : Registry) (id scopeName : String) (rule : Scope → Rule) :
    Except UnknownScope Registry :=
  match Scope.ofName? scopeName with
  | some scope => .ok (registry.insert { rule scope with id, scope })
  | none => .error ⟨id, scopeName⟩

/-- Whether one rule stands before another or beside it. -/
def precedes (first second : Rule) : Bool :=
  decide (first.scope.position < second.scope.position) ||
    (decide (first.scope.position = second.scope.position) &&
      decide (first.order ≤ second.order))

/-- Puts a rule in front of the first one that it precedes or equals in
place. -/
def place (rule : Rule) : List Rule → List Rule
  | [] => [rule]
  | next :: rest => if precedes rule next then rule :: next :: rest else next :: place rule rest

/-- Rules in listing order. Rules of equal place keep their order. -/
def arrange (rules : List Rule) : List Rule :=
  rules.foldr place []

/-- The registered rules in listing order. -/
def sorted (registry : Registry) : List Rule :=
  arrange registry.rules

/-- The ids of all rules in listing order. -/
def ids (registry : Registry) : List String :=
  registry.sorted.map (·.id)

/-- The ids of each scope that has rules, in listing order. -/
def summary (registry : Registry) : List (Scope × List String) :=
  (Scope.all.map fun scope =>
    (scope, (registry.sorted.filter (·.scope = scope)).map (·.id))).filter (!·.2.isEmpty)

example : builtIn.ids =
    ["DYNAMIC_COMPILE_CLASS", "EXTENSION_LIMIT_CLASS", "DEF_FIELD", "DEF_METHOD",
     "DYNAMIC_COMPILE_METHOD", "EXTENSION_LIMIT_METHOD", "DEF_PARAMETER"] := by decide

end Registry

/-- The rules that run, by scope, in the order of their checks. -/
structure RuleTable where
  rules : List Rule

namespace RuleTable

/-- The rules of a scope. -/
def forScope (table : RuleTable) (scope : Scope) : List Rule :=
  table.rules.filter (·.scope = scope)

/-- The ids of each scope. Every scope is listed. -/
def listing (table : RuleTable) : List (Scope × List String) :=
  Scope.all.map fun scope => (scope, (table.forScope scope).map (·.id))

/-- The ids of all rules in the order of their checks. -/
def ids (table : RuleTable) : List String :=
  table.rules.map (·.id)

end RuleTable

/-- The rules that run under a configuration: those that apply and are not
skipped. -/
def Registry.activeRules (registry : Registry) (config : Configuration)
    (skipped : List String) : RuleTable :=
  ⟨registry.sorted.filter fun rule => !skipped.contains rule.id && rule.applies config⟩

end CompilePolicy

import CompilePolicy.Rule.Basic
import CompilePolicy.Tree.Annotations

/-!
# The built-in rules

Seven rules in three families, each switched on by one setting: opting out of
static compilation, asking for extensions that are not allowed, and dynamic
types.
-/

namespace CompilePolicy

open Document

/-- Whether a class name contains some entry of a whitelist. Containment is
anywhere in the full name, so a short entry can exempt many classes. -/
def isWhitelisted (className : String) (whitelist : List String) : Bool :=
  whitelist.any fun entry => Text.occursIn entry className

/-- Whether a node opts out of static compilation. -/
def optsOut (node : Node) : Bool :=
  hasAny node.annotations [compileDynamic] || hasSkipMode node.annotations

/-- A rule against opting out of static compilation. Classes on the whitelist
may opt out. -/
def compileModeRule (id : String) (scope : Scope) (order : Int) (message : String) : Rule where
  id
  scope
  order
  description := "Dynamic compilation is disabled"
  applies := (·.disableDynamicCompile)
  check config node owner := .ok <|
    if isWhitelisted owner.name config.classWhitelist then []
    else if optsOut node then [.attributed id node owner message] else []

/-- A rule against extensions that are not allowed. It reports those it found. -/
def extensionRule (id : String) (scope : Scope) (order : Int) : Rule where
  id
  scope
  order
  description := "Compile Static extensions are limited"
  applies := (·.limitExtensions)
  check config node owner := .ok <|
    match disallowedExtensions node.annotations config.allowedExtensions with
    | [] => []
    | rejected =>
      [.attributed id node owner
        ("Compile Static extensions are limited to: " ++ config.extensionsText)
        [("rejected", .strings rejected)]]

/-- A rule against dynamic types. -/
def dynamicTypeRule (id : String) (scope : Scope) (message : String) : Rule where
  id
  scope
  order := 10
  description := "def is not allowed"
  applies config := !config.dynamicTypingAllowed
  check _ node owner := .ok (if node.isDynamic then [.attributed id node owner message] else [])

/-- The built-in rules in the order in which they are registered. -/
def builtInRules : List Rule :=
  [compileModeRule "DYNAMIC_COMPILE_CLASS" .ofClass 10
     "Dynamic Compilation is not allowed for this class.",
   compileModeRule "DYNAMIC_COMPILE_METHOD" .ofMethod 20
     "Dynamic Compilation is not allowed for this method.",
   extensionRule "EXTENSION_LIMIT_CLASS" .ofClass 20,
   extensionRule "EXTENSION_LIMIT_METHOD" .ofMethod 30,
   dynamicTypeRule "DEF_FIELD" .ofField "def is not allowed for variables.",
   dynamicTypeRule "DEF_METHOD" .ofMethod "def is not allowed for methods.",
   dynamicTypeRule "DEF_PARAMETER" .ofParameter "Dynamically typed parameters are not allowed."]

theorem isWhitelisted_iff (className : String) (whitelist : List String) :
    isWhitelisted className whitelist = true ↔
      ∃ entry ∈ whitelist, entry.toList <:+: className.toList := by
  simp [isWhitelisted, Text.occursIn_iff]

end CompilePolicy

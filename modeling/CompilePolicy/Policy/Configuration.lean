import CompilePolicy.Document.Value

/-!
# Enforcement settings

A configuration is resolved once and read only after that. It says which units
and classes are exempt and which checks run.
-/

namespace CompilePolicy

/-- The settings of a run. Which layer produced them is kept for reports, and
two configurations are compared by the other fields. -/
structure Configuration where
  /-- Nothing is checked at all. -/
  globalDisable : Bool := false
  /-- Units without a target directory are skipped. -/
  scriptsExempt : Bool := true
  /-- Opting out of static compilation is a violation. -/
  disableDynamicCompile : Bool := false
  /-- A class whose name contains one of these is exempt. -/
  classWhitelist : List String := []
  /-- The extensions that markers get, and the only ones allowed if they are
  limited. -/
  allowedExtensions : List String := []
  /-- Asking for an extension that is not allowed is a violation. -/
  limitExtensions : Bool := false
  /-- If not set, dynamic types are violations. -/
  dynamicTypingAllowed : Bool := true
  /-- Classes in no package are exempt. -/
  skipDefaultPackage : Bool := false
  /-- The layer that produced the settings. -/
  source : String := "defaults"
deriving DecidableEq, Repr

namespace Configuration

/-- Whether some check runs under these settings. -/
def enforcementActive (config : Configuration) : Bool :=
  config.disableDynamicCompile || config.limitExtensions || !config.dynamicTypingAllowed

/-- The allowed extensions in brackets. -/
def extensionsText (config : Configuration) : String :=
  "[" ++ ", ".intercalate config.allowedExtensions ++ "]"

/-- Whether two configurations agree on everything but their source. -/
def agrees (first second : Configuration) : Bool :=
  { first with source := "" } == { second with source := "" }

open Document in
/-- The settings as a record, with whether some check runs. -/
def toRecord (config : Configuration) : Value :=
  .record [
    ("global_disable", .bool config.globalDisable),
    ("script_whitelist_enabled", .bool config.scriptsExempt),
    ("disable_dynamic_compile", .bool config.disableDynamicCompile),
    ("class_whitelist", .strings config.classWhitelist),
    ("allowed_extensions", .strings config.allowedExtensions),
    ("limit_extensions", .bool config.limitExtensions),
    ("dynamic_typing_allowed", .bool config.dynamicTypingAllowed),
    ("skip_default_package", .bool config.skipDefaultPackage),
    ("source", .string config.source),
    ("enforcement_active", .bool config.enforcementActive)]

theorem agrees_iff (first second : Configuration) :
    first.agrees second = true ↔
      first = { second with source := first.source } := by
  cases first
  cases second
  simp [agrees]

end Configuration

end CompilePolicy

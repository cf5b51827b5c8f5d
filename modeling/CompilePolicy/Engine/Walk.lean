import CompilePolicy.Engine.Outcome
import CompilePolicy.Journal.Record
import CompilePolicy.Rule.Registry

/-!
# Walking a unit

The walk of one compilation unit under a configuration and a table of rules. A
unit is skipped as a whole or walked; a class of a walked unit is exempt, or it
gets a marker unless it has chosen its compile mode, and is then checked node
by node. A rule that fails on a node reports nothing there and stops no other
rule.
-/

namespace CompilePolicy

open Journal

/-- The logger of the walk. -/
def walkLogger : String := childLogger "core.enforcement.engine"

/-- Why a unit is not walked. -/
inductive SkipReason where
  | disabled
  | script
deriving DecidableEq, Repr

/-- Why a unit is not walked, if it is not. -/
def skipReason? (config : Configuration) (unit : CompilationUnit) : Option SkipReason :=
  if config.globalDisable then some .disabled
  else if config.scriptsExempt && !unit.hasTarget then some .script
  else none

/-- The record of a skipped unit. -/
def SkipReason.record (unitName : String) : SkipReason → Record
  | .disabled => ⟨walkLogger, .debug, "Enforcement disabled, skipping " ++ unitName⟩
  | .script => ⟨walkLogger, .debug, "Skipping script " ++ unitName ++ " (no target directory)"⟩

/-- Why a class is not checked. -/
inductive Exemption where
  | whitelisted
  | defaultPackage
deriving DecidableEq, Repr

/-- Why a class is not checked, if it is not. -/
def exemption? (config : Configuration) (decl : ClassDecl) : Option Exemption :=
  if isWhitelisted decl.name config.classWhitelist then some .whitelisted
  else if config.skipDefaultPackage && decl.packageName == "" then some .defaultPackage
  else none

/-- The record of an exempt class. -/
def Exemption.record (className : String) : Exemption → Record
  | .whitelisted => ⟨walkLogger, .debug, className ++ " is whitelisted"⟩
  | .defaultPackage => ⟨walkLogger, .debug, className ++ " is in the default package"⟩

/-- Whether a class has chosen its compile mode. -/
def choosesMode (decl : ClassDecl) : Bool :=
  hasAny decl.annotations [compileStatic, compileDynamic]

/-- The marker that a class gets: it lists the allowed extensions if there are
any. -/
def markerFor (config : Configuration) : Annotation where
  name := compileStatic
  members :=
    if config.allowedExtensions.isEmpty then []
    else [(extensionsMember, .list config.allowedExtensions)]

/-- The class with the marker at the end of its annotations. -/
def attachMarker (config : Configuration) (decl : ClassDecl) : ClassDecl :=
  { decl with annotations := decl.annotations ++ [markerFor config] }

/-- The class as it is checked: with a marker, unless it has chosen its mode. -/
def markedClass (config : Configuration) (decl : ClassDecl) : ClassDecl :=
  if choosesMode decl then decl else attachMarker config decl

/-- A rule that failed on a node. -/
structure RuleFailure where
  ruleId : String
  owner : String
  reason : String
deriving DecidableEq, Repr

/-- The record of a failed rule. -/
def RuleFailure.record (failure : RuleFailure) : Record :=
  ⟨walkLogger, .warning,
    "Rule " ++ failure.ruleId ++ " failed on " ++ failure.owner ++ ": " ++ failure.reason⟩

/-- What one rule gives at one node: its diagnostics, in which the unit is filled in and
nothing else, or its failure. -/
def checkRule (config : Configuration) (unitName : String) (owner : ClassDecl) (node : Node)
    (rule : Rule) : Except RuleFailure (List Diagnostic) :=
  match rule.check config node owner with
  | .ok given => .ok (given.map fun diagnostic => { diagnostic with unit := unitName })
  | .error reason => .error ⟨rule.id, owner.name, reason⟩

/-- What all rules of its scope give at a node, in order. -/
def checkNode (config : Configuration) (table : RuleTable) (unitName : String)
    (owner : ClassDecl) (node : Node) : List (Except RuleFailure (List Diagnostic)) :=
  (table.forScope node.scope).map (checkRule config unitName owner node)

/-- What the rules give at all nodes of a class. Nothing is checked unless the
configuration asks for some check. -/
def checkClass (config : Configuration) (table : RuleTable) (unitName : String)
    (owner : ClassDecl) : List (Except RuleFailure (List Diagnostic)) :=
  if config.enforcementActive then owner.nodes.flatMap (checkNode config table unitName owner)
  else []

/-- The diagnostics among what rules gave. -/
def reported (results : List (Except RuleFailure (List Diagnostic))) : List Diagnostic :=
  results.flatMap fun
    | .ok diagnostics => diagnostics
    | .error _ => []

/-- The failures among what rules gave. -/
def failed (results : List (Except RuleFailure (List Diagnostic))) : List RuleFailure :=
  results.filterMap fun
    | .ok _ => none
    | .error failure => some failure

/-- What the walk does with one class: the class before and after it, and what the
rules gave if it was checked. -/
structure ClassVisit where
  before : ClassDecl
  decl : ClassDecl
  exemption : Option Exemption
  results : List (Except RuleFailure (List Diagnostic))

/-- Visits a class. -/
def visitClass (config : Configuration) (table : RuleTable) (unitName : String)
    (decl : ClassDecl) : ClassVisit :=
  match exemption? config decl with
  | some exemption => ⟨decl, decl, some exemption, []⟩
  | none =>
    let marked := markedClass config decl
    ⟨decl, marked, none, checkClass config table unitName marked⟩

namespace ClassVisit

/-- Whether the class was checked. -/
def isChecked (visit : ClassVisit) : Bool :=
  visit.exemption.isNone

/-- Whether the class was given a marker. -/
def isAnnotated (visit : ClassVisit) : Bool :=
  visit.isChecked && !choosesMode visit.before

/-- The records of a visit. -/
def records (visit : ClassVisit) : List Record :=
  match visit.exemption with
  | some exemption => [exemption.record visit.decl.name]
  | none => (failed visit.results).map (·.record)

end ClassVisit

/-- The ids of the rules that run: none unless the configuration asks for some
check. -/
def activeIds (config : Configuration) (table : RuleTable) : List String :=
  if config.enforcementActive then table.ids else []

/-- The outcome of the visits to the classes of a unit, without its time. -/
def visitsOutcome (config : Configuration) (table : RuleTable) (unitName : String)
    (visits : List ClassVisit) : Outcome where
  unitsProcessed := [unitName]
  classesChecked := (visits.filter (·.isChecked)).map (·.decl.name)
  classesExempt := (visits.filter (!·.isChecked)).map (·.decl.name)
  classesAnnotated := (visits.filter (·.isAnnotated)).map (·.decl.name)
  diagnostics := visits.flatMap fun visit => reported visit.results
  rulesRun := activeIds config table
  rulesFailed :=
    addMissing [] ((visits.flatMap fun visit => failed visit.results).map (·.ruleId))

/-- The record at the end of a walk. -/
def completionRecord (unitName : String) (outcome : Outcome) : Record :=
  ⟨walkLogger, .info,
    "Enforcement complete for " ++ (if unitName = "" then "<unnamed>" else unitName) ++ ": " ++
      Decimal.natText outcome.classesAnnotated.length ++ " annotated, " ++
      Decimal.natText outcome.classesExempt.length ++ " exempt, " ++
      Decimal.natText outcome.diagnostics.length ++ " diagnostics"⟩

/-- What a walk leaves: the unit after it, its outcome and its records. -/
structure Walk where
  unit : CompilationUnit
  outcome : Outcome
  records : List Record

/-- The walk of a unit that is not skipped. -/
def walkClasses (config : Configuration) (table : RuleTable) (unit : CompilationUnit) : Walk :=
  let visits := unit.classes.map (visitClass config table unit.name)
  let outcome := visitsOutcome config table unit.name visits
  { unit := { unit with classes := visits.map (·.decl) }
    outcome
    records := visits.flatMap (·.records) ++ [completionRecord unit.name outcome] }

/-- The walk of a unit. -/
def walkUnit (config : Configuration) (table : RuleTable) (unit : CompilationUnit) : Walk :=
  match skipReason? config unit with
  | some reason =>
    { unit
      outcome := { unitsSkipped := [unit.name] }
      records := [reason.record unit.name] }
  | none => walkClasses config table unit

end CompilePolicy

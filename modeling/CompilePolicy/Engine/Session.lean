import CompilePolicy.Engine.Walk
import CompilePolicy.Policy.Resolver

/-!
# Sessions

A session is what engines work on: the units, the registered rules, the resolver
with what it reads, and a clock. An engine takes its configuration from the
resolver on first use, unless it is given one, and builds its table of rules on
first use. It keeps both from then on.

Each operation either gives a result or fails because no configuration is
found. A failed operation leaves units, rules and engine as they were.
-/

namespace CompilePolicy

open Conventions FileSystem Journal

/-- An engine. -/
structure Engine where
  /-- The configuration, if it is given or has been resolved. -/
  configuration : Option Configuration := none
  /-- The ids of rules that are left out. -/
  skipped : List String := []
  /-- The rules, once they are built. -/
  table : Option RuleTable := none

/-- The seconds since some start, which pass when the clock is read. -/
structure Clock where
  now : Float := 0
  tick : Float := 0

/-- The clock after one reading. -/
def Clock.advance (clock : Clock) : Clock :=
  { clock with now := clock.now + clock.tick }

/-- What engines work on. -/
structure Session where
  units : List CompilationUnit := []
  registry : Registry := .builtIn
  origin : Properties.Origin := .given []
  files : Files := .empty
  resolver : Resolver := {}
  clock : Clock := {}
  engine : Engine := {}
  /-- What has been reported, the last record last. -/
  records : List Record := []

/-- An operation in a session. -/
abbrev InSession (α : Type) := ExceptT SourceFault (StateM Session) α

namespace Session

/-- Adds records. -/
def report (records : List Record) : InSession Unit :=
  modify fun session => { session with records := session.records ++ records }

/-- The configuration of the engine. -/
def configuration : InSession Configuration := do
  let session ← get
  match session.engine.configuration with
  | some config => return config
  | none =>
    let request := session.resolver.get session.files session.origin.read
    set { session with resolver := request.resolver }
    report request.records
    match request.result with
    | .error fault => throw fault
    | .ok resolved =>
      modify fun current =>
        { current with
          engine := { current.engine with configuration := some resolved.configuration } }
      return resolved.configuration

/-- The rules of the engine. -/
def table : InSession RuleTable := do
  match (← get).engine.table with
  | some table => return table
  | none =>
    let config ← configuration
    let session ← get
    let table := session.registry.activeRules config session.engine.skipped
    set { session with engine := { session.engine with table := some table } }
    return table

/-- The rules that a walk under a configuration runs: they are built only where
the configuration asks for some check. -/
def tableFor (config : Configuration) : InSession RuleTable :=
  if config.enforcementActive then table else return ⟨[]⟩

/-- The ids of the rules that run. -/
def activeIds : InSession (List String) := do
  let config ← configuration
  return CompilePolicy.activeIds config (← tableFor config)

/-- Reads the clock. -/
def readClock : InSession Float := do
  modify fun session => { session with clock := session.clock.advance }
  return (← get).clock.now

/-- Puts a unit in its place. -/
def setUnit (position : Nat) (unit : CompilationUnit) : InSession Unit :=
  modify fun session => { session with units := session.units.set position unit }

/-- Walks a unit. The time of a walk is what the clock shows between its start
and its end. -/
def execute (position : Nat) : InSession Outcome := do
  let start ← readClock
  let config ← configuration
  let unit := (← get).units.getD position {}
  match skipReason? config unit with
  | some _ =>
    let walk := walkUnit config ⟨[]⟩ unit
    report walk.records
    return walk.outcome
  | none =>
    let walk := walkUnit config (← tableFor config) unit
    setUnit position walk.unit
    let finish ← readClock
    report walk.records
    return { walk.outcome with seconds := finish - start }

/-- Walks units in order, and merges the outcomes onto one. -/
def executeOnto (outcome : Outcome) : List Nat → InSession Outcome
  | [] => return outcome
  | position :: rest => do
    let next ← execute position
    executeOnto (outcome.merge next) rest

/-- Walks units in order. -/
def executeMany (positions : List Nat) : InSession Outcome :=
  executeOnto {} positions

/-- A class of a unit. -/
def classAt (session : Session) (unit position : Nat) : ClassDecl :=
  (session.units.getD unit {}).classes.getD position { name := "" }

/-- Puts a class in its place. -/
def setClass (unit position : Nat) (decl : ClassDecl) : InSession Unit :=
  modify fun session =>
    let owner := session.units.getD unit {}
    { session with
      units := session.units.set unit { owner with classes := owner.classes.set position decl } }

/-- Gives a class the marker, unless it has chosen its mode, and says whether it
was given. -/
def attach (unit position : Nat) : InSession Bool := do
  let decl := (← get).classAt unit position
  if choosesMode decl then return false
  else
    let config ← configuration
    setClass unit position (attachMarker config decl)
    return true

/-- Checks one class, for a unit of some name. -/
def enforce (unit position : Nat) (unitName : String) : InSession Outcome := do
  let config ← configuration
  let rules ← tableFor config
  let results := checkClass config rules unitName ((← get).classAt unit position)
  let failures := failed results
  report (failures.map (·.record))
  return { diagnostics := reported results, rulesFailed := addMissing [] (failures.map (·.ruleId)) }

/-- Adds an annotation to a class. -/
def annotate (unit position : Nat) (note : Annotation) : InSession Unit := do
  let decl := (← get).classAt unit position
  setClass unit position { decl with annotations := decl.annotations ++ [note] }

/-- Runs an operation: what it gives, and the session after it. -/
def run {α : Type} (session : Session) (operation : InSession α) :
    Except SourceFault α × Session :=
  (ExceptT.run operation).run session

end Session

end CompilePolicy

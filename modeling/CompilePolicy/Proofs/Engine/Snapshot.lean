import CompilePolicy.Proofs.Engine.History
import CompilePolicy.Proofs.Engine.Transit

/-!
# What engines keep

An engine writes its configuration and its table of rules once, and no operation changes
what is written. So once both are there, nothing that happens around the engine counts
any more: rules that are registered again, ids to leave out, resets, other properties and
files, runs of other engines. An engine without a table works by the registry and by the
ids to leave out as they are when it builds the table.
-/

namespace CompilePolicy

open Conventions FileSystem Journal Policy

/-! ## What there is to find -/

namespace Session

/-- The configuration that the engine has, or that it would get from its resolver: the
one that the resolver has, or else what the properties and files give now. -/
def found (session : Session) : Except SourceFault Configuration :=
  match session.engine.configuration with
  | some config => .ok config
  | none =>
    match session.resolver.current with
    | some resolved => .ok resolved.configuration
    | none => (resolveConfiguration session.files session.origin.read).map (·.1)

/-- The rules that the engine has, or that it would build under a configuration. -/
def rulesUnder (session : Session) (config : Configuration) : RuleTable :=
  session.engine.table.getD (session.registry.activeRules config session.engine.skipped)

variable {session : Session}

/-- An engine takes the configuration that there is to find, and keeps it. -/
theorem run_configuration_eq (session : Session) :
    ∃ resolver records, session.run configuration =
      (session.found, { session with
        resolver, records
        engine := { session.engine with configuration := session.found.toOption } }) := by
  rcases session with
    ⟨units, registry, origin, files, resolver, clock, ⟨own, skipped, table⟩, records⟩
  cases own with
  | some config => exact ⟨resolver, records, rfl⟩
  | none =>
      rw [configuration, run_bind_of_ok _ (run_get _)]
      dsimp only
      rw [run_bind_of_ok _ (run_set _ _), run_bind_of_ok _ (run_report ..)]
      unfold found Resolver.get
      dsimp only
      cases resolver.current with
      | some resolved => exact ⟨_, _, rfl⟩
      | none => cases resolveConfiguration files origin.read <;> exact ⟨_, _, rfl⟩

theorem run_configuration_of_found {config : Configuration} (found : session.found = .ok config) :
    ∃ resolver records, session.run configuration =
      (.ok config, { session with
        resolver, records
        engine := { session.engine with configuration := some config } }) := by
  obtain ⟨resolver, records, ran⟩ := run_configuration_eq session
  rw [found] at ran
  exact ⟨resolver, records, ran⟩

/-- An engine finds no configuration if it has none, its resolver has none, and the
properties and files give none. -/
theorem found_eq_error_iff {fault : SourceFault} :
    session.found = .error fault ↔
      session.engine.configuration = none ∧ session.resolver.current = none ∧
        resolveConfiguration session.files session.origin.read = .error fault := by
  unfold found
  cases session.engine.configuration with
  | some config => simp
  | none =>
      cases session.resolver.current with
      | some resolved => simp
      | none => cases resolveConfiguration session.files session.origin.read <;> simp [Except.map]

/-- A session whose resolver has read the properties once more. -/
def reread (session : Session) : Session :=
  { session with resolver := { session.resolver with reads := session.resolver.reads + 1 } }

/-- An engine that finds no configuration has made its resolver read, and nothing else. -/
theorem run_configuration_of_unfound {fault : SourceFault}
    (unfound : session.found = .error fault) :
    session.run configuration = (.error fault, session.reread) := by
  obtain ⟨own, unresolved, failed⟩ := found_eq_error_iff.mp unfound
  have request : session.resolver.get session.files session.origin.read =
      ⟨.error fault, session.reread.resolver, []⟩ := by
    simp only [Resolver.get, unresolved, failed, reread]
  rw [configuration, run_bind_of_ok session (run_get session), own]
  dsimp only
  rw [run_bind_of_ok _ (run_set _ _), run_bind_of_ok _ (run_report ..), request, List.append_nil]
  rfl

/-! ## Tables -/

theorem run_table_of_kept {table : RuleTable} (kept : session.engine.table = some table) :
    session.run Session.table = (.ok table, session) := by
  rw [Session.table, run_bind_of_ok session (run_get session), kept]
  exact run_pure session table

/-- An engine without a table builds it under the configuration that there is to find,
from the registry and the ids to leave out as they are now. -/
theorem run_table_of_unbuilt (unbuilt : session.engine.table = none) :
    let built := session.found.map session.rulesUnder
    (session.run Session.table).1 = built ∧
      (session.run Session.table).2.engine =
        { configuration := session.found.toOption
          skipped := session.engine.skipped
          table := built.toOption } ∧
      (session.run Session.table).2.registry = session.registry := by
  obtain ⟨resolver, records, ran⟩ := run_configuration_eq session
  rw [Session.table, run_bind_of_ok session (run_get session), unbuilt]
  dsimp only
  cases found : session.found with
  | error fault =>
      rw [found] at ran
      rw [run_bind, ran]
      exact ⟨rfl, by simp [Except.toOption, Except.map, unbuilt], rfl⟩
  | ok config =>
      rw [found] at ran
      have same : session.registry.activeRules config session.engine.skipped =
          session.rulesUnder config := by
        rw [rulesUnder, unbuilt, Option.getD_none]
      rw [run_bind_of_ok session ran, run_bind_of_ok _ (run_get _)]
      dsimp only
      rw [same]
      exact ⟨rfl, rfl, rfl⟩

/-- A walk under a configuration that the engine has finds the rules of the engine, and
builds them if they count. -/
theorem run_tableFor_of_configured {config : Configuration}
    (configured : session.engine.configuration = some config) :
    session.run (tableFor config) =
      if config.enforcementActive then
        (.ok (session.rulesUnder config),
          { session with
            engine := { session.engine with table := some (session.rulesUnder config) } })
      else (.ok ⟨[]⟩, session) := by
  unfold tableFor
  split
  · rcases session with ⟨units, registry, origin, files, resolver, clock, ⟨own, skipped, table⟩, _⟩
    cases configured
    cases table <;> rfl
  · rfl

/-! ## What an engine works by -/

/-- An engine works by a configuration and by rules: it gives both when it is asked, and
walks units under both. -/
structure WorksBy (session : Session) (config : Configuration) (table : RuleTable) : Prop where
  configuration : (session.run Session.configuration).1 = .ok config
  rules : (session.run Session.table).1 = .ok table
  ids : (session.run activeIds).1 = .ok (CompilePolicy.activeIds config table)
  walk : ∀ place,
    let walk := walkUnit config table (session.units.getD place {})
    ∃ outcome next, session.run (execute place) = (.ok outcome, next) ∧
      outcome.untimed = walk.outcome ∧ next.units = session.units.set place walk.unit

/-- Rules count for a walk if some check runs and the unit is not skipped. -/
def RulesCount (config : Configuration) (unit : CompilationUnit) : Prop :=
  config.enforcementActive = true ∧ skipReason? config unit = none

/-- A walk does not depend on rules that do not count. -/
theorem walkUnit_of_not_rulesCount {config : Configuration} {unit : CompilationUnit}
    (idle : ¬RulesCount config unit) (table other : RuleTable) :
    walkUnit config table unit = walkUnit config other unit := by
  cases reason : skipReason? config unit with
  | some skips => exact walkUnit_of_skipped reason table other
  | none =>
      have inactive : config.enforcementActive = false := by
        simpa [RulesCount, reason] using idle
      exact walkUnit_of_inactive inactive table other unit

/-- A walk takes the configuration that there is to find, and the rules if they count. It
gives what the walk under both gives, but for the time. -/
theorem run_execute_of_found {config : Configuration} (found : session.found = .ok config)
    (place : Nat) :
    let unit := session.units.getD place {}
    let walk := walkUnit config (session.rulesUnder config) unit
    ∃ outcome next, session.run (execute place) = (.ok outcome, next) ∧
      outcome.untimed = walk.outcome ∧ next.units = session.units.set place walk.unit ∧
      next.engine.configuration = some config ∧
      (RulesCount config unit → next.engine.table = some (session.rulesUnder config)) := by
  intro unit walk
  have foundLater : Session.found { session with clock := session.clock.advance } = .ok config :=
    found
  obtain ⟨resolver, records, ran⟩ := run_configuration_of_found foundLater
  let begun : Session := { session with
    clock := session.clock.advance
    resolver, records
    engine := { session.engine with configuration := some config } }
  have built : begun.run (tableFor config) = _ := run_tableFor_of_configured rfl
  cases active : config.enforcementActive with
  | true =>
      simp only [active, if_true] at built
      obtain ⟨outcome, next, walked, same, units, -, -, engine⟩ :=
        run_execute_of_resolved ran built place
      refine ⟨outcome, next, walked, same, units, ?_, fun counts => ?_⟩
      · rw [engine]
        split <;> rfl
      · rw [engine, if_pos counts.2]
        rfl
  | false =>
      simp only [active, Bool.false_eq_true, if_false] at built
      obtain ⟨outcome, next, walked, same, units, -, -, engine⟩ :=
        run_execute_of_resolved ran built place
      have idle := walkUnit_of_inactive active ⟨[]⟩ (session.rulesUnder config) unit
      refine ⟨outcome, next, walked, same.trans (by rw [idle]), units.trans (by rw [idle]), ?_, ?_⟩
      · rw [engine]
        split <;> rfl
      · rintro ⟨isActive, -⟩
        rw [active] at isActive
        cases isActive

/-- An engine that finds no configuration walks nothing. -/
theorem run_execute_of_unfound {fault : SourceFault}
    (unfound : session.found = .error fault) (place : Nat) :
    session.run (execute place) =
      (.error fault, Session.reread { session with clock := session.clock.advance }) := by
  have unfoundLater : Session.found { session with clock := session.clock.advance } =
      .error fault := unfound
  rw [execute, run_bind_of_ok session (run_readClock session), run_bind,
    run_configuration_of_unfound unfoundLater]

/-- An engine works by the configuration that there is to find and by the rules that it
has or would build. -/
theorem worksBy_of_found {config : Configuration} (found : session.found = .ok config) :
    session.WorksBy config (session.rulesUnder config) := by
  obtain ⟨resolver, records, ran⟩ := run_configuration_of_found found
  constructor
  · rw [ran]
  · cases kept : session.engine.table with
    | some table =>
        rw [run_table_of_kept kept, rulesUnder, kept]
        rfl
    | none => rw [(run_table_of_unbuilt kept).1, found, Except.map]
  · rw [activeIds, run_bind_of_ok session ran, run_bind, run_tableFor_of_configured rfl]
    cases active : config.enforcementActive with
    | true => rfl
    | false =>
        simp only [CompilePolicy.activeIds, active]
        rfl
  · intro place
    obtain ⟨outcome, next, walked, same, units, -, -⟩ := run_execute_of_found found place
    exact ⟨outcome, next, walked, same, units⟩

/-- An engine without a table works by the configuration that there is to find, by the
registry and by the ids to leave out as they are now. If there is no configuration to be
found, it fails. -/
structure StartsNow (session : Session) : Prop where
  works : ∀ config, session.found = .ok config →
    session.WorksBy config (session.registry.activeRules config session.engine.skipped)
  fails : ∀ fault, session.found = .error fault →
    (session.run Session.configuration).1 = .error fault ∧
      (session.run Session.table).1 = .error fault ∧
      (session.run activeIds).1 = .error fault ∧
      ∀ place, (session.run (execute place)).1 = .error fault

theorem startsNow_of_unbuilt (unbuilt : session.engine.table = none) : session.StartsNow := by
  constructor
  · intro config found
    have works := worksBy_of_found found
    rwa [rulesUnder, unbuilt, Option.getD_none] at works
  · intro fault unfound
    obtain ⟨resolver, records, ran⟩ := run_configuration_eq session
    rw [unfound] at ran
    refine ⟨by rw [ran], ?_, ?_, fun place => ?_⟩
    · rw [(run_table_of_unbuilt unbuilt).1, unfound, Except.map]
    · rw [activeIds, run_bind, ran]
    · rw [run_execute_of_unfound unfound place]

end Session

/-! ## Operations write once -/

/-- What an engine has found or built stays as it is. -/
structure Engine.Extends (before after : Engine) : Prop where
  configuration : ∀ config, before.configuration = some config →
    after.configuration = some config
  table : ∀ table, before.table = some table → after.table = some table

theorem Engine.Extends.refl (engine : Engine) : engine.Extends engine :=
  ⟨fun _ same => same, fun _ same => same⟩

theorem Engine.Extends.trans {first second third : Engine} (start : first.Extends second)
    (rest : second.Extends third) : first.Extends third where
  configuration config had := rest.configuration config (start.configuration config had)
  table rules had := rest.table rules (start.table rules had)

namespace Session

variable {α : Type}

/-- An operation only adds to what the engine has. -/
def WritesOnce (operation : InSession α) : Prop :=
  ∀ session : Session, session.engine.Extends (session.run operation).2.engine

theorem found_of_configured {session : Session} {config : Configuration}
    (configured : session.engine.configuration = some config) : session.found = .ok config := by
  rw [found, configured]

theorem writesOnce_configuration : WritesOnce configuration := by
  intro session
  obtain ⟨resolver, records, ran⟩ := run_configuration_eq session
  rw [ran]
  constructor
  · intro config configured
    rw [found_of_configured configured]
    rfl
  · exact fun _ kept => kept

theorem writesOnce_table : WritesOnce table := by
  intro session
  cases kept : session.engine.table with
  | some table =>
      rw [run_table_of_kept kept]
      exact .refl session.engine
  | none =>
      rw [(run_table_of_unbuilt kept).2.1]
      constructor
      · intro config configured
        rw [found_of_configured configured]
        rfl
      · intro table built
        rw [kept] at built
        cases built

/-- Every operation only adds to what the engine has. -/
theorem transit_extends : Transit fun before after => before.engine.Extends after.engine where
  trans := .trans
  apart engine _ := engine ▸ .refl _
  configuration := writesOnce_configuration
  table := writesOnce_table

end Session

/-! ## Engines in one host -/

/-- A resolver with what it reads. -/
structure Reader where
  resolver : Resolver := {}
  origin : Properties.Origin := .given []

/-- An engine with the number of the resolver that it asks. -/
structure Worker where
  engine : Engine := {}
  asks : Nat := 0

/-- What engines share, and the engines. Resolvers and engines go by numbers. -/
structure Host where
  units : List CompilationUnit := []
  registry : Registry := .builtIn
  files : Files := .empty
  clock : Clock := {}
  records : List Record := []
  readers : Nat → Reader
  workers : Nat → Worker

/-- What an engine is asked to do. -/
inductive Operation where
  | call (call : Call)
  | readConfiguration
  | readRules
  | readIds

/-- The session after an operation, whatever the operation gives. -/
def Operation.sessionAfter (session : Session) : Operation → Session
  | .call made => made.sessionAfter session
  | .readConfiguration => (session.run Session.configuration).2
  | .readRules => (session.run Session.table).2
  | .readIds => (session.run Session.activeIds).2

/-- Every operation goes along what its parts go along. -/
theorem Operation.along {related : Session → Session → Prop} (transit : Session.Transit related)
    (session : Session) (operation : Operation) :
    related session (operation.sessionAfter session) := by
  cases operation with
  | call made =>
      cases made with
      | execute unit => exact transit.execute unit session
      | executeMany units => exact transit.executeOnto {} units session
      | attach unit decl => exact transit.attach unit decl session
      | enforce unit decl unitName => exact transit.enforce unit decl unitName session
  | readConfiguration => exact transit.configuration session
  | readRules => exact transit.table session
  | readIds => exact transit.activeIds session

namespace Host

/-- What happens in a host. -/
inductive Event where
  | use (engine : Nat) (operation : Operation)
  /-- A new engine takes the number, with or without a configuration. -/
  | create (engine asks : Nat) (configuration : Option Configuration) (skipped : List String)
  | register (id scopeName : String) (rule : Scope → Rule)
  /-- An engine gets other ids to leave out. -/
  | skip (engine : Nat) (ids : List String)
  | reset (reader : Nat)
  /-- A resolver reads from other properties or another environment. -/
  | reread (reader : Nat) (origin : Properties.Origin)
  | write (files : Files)
  | edit (units : List CompilationUnit)

/-- The session of an engine. -/
def session (host : Host) (number : Nat) : Session where
  units := host.units
  registry := host.registry
  origin := (host.readers (host.workers number).asks).origin
  files := host.files
  resolver := (host.readers (host.workers number).asks).resolver
  clock := host.clock
  engine := (host.workers number).engine
  records := host.records

/-- What the session of an engine has come to. -/
def adopt (host : Host) (number : Nat) (next : Session) : Host where
  units := next.units
  registry := next.registry
  files := next.files
  clock := next.clock
  records := next.records
  readers := Function.update host.readers (host.workers number).asks ⟨next.resolver, next.origin⟩
  workers := Function.update host.workers number ⟨next.engine, (host.workers number).asks⟩

/-- The host after an event. -/
def after (host : Host) : Event → Host
  | .use engine operation => host.adopt engine (operation.sessionAfter (host.session engine))
  | .create engine asks configuration skipped =>
    { host with workers := Function.update host.workers engine ⟨{ configuration, skipped }, asks⟩ }
  | .register id scopeName rule =>
    match host.registry.register id scopeName rule with
    | .ok registry => { host with registry }
    | .error _ => host
  | .skip engine ids =>
    let worker := host.workers engine
    { host with
      workers := Function.update host.workers engine
        { worker with engine := { worker.engine with skipped := ids } } }
  | .reset reader =>
    let kept := host.readers reader
    { host with
      readers := Function.update host.readers reader
        { kept with resolver := kept.resolver.reset } }
  | .reread reader origin =>
    { host with
      readers := Function.update host.readers reader { host.readers reader with origin } }
  | .write files => { host with files }
  | .edit units => { host with units }

/-- The host after some events, the first event first. -/
def run (host : Host) (events : List Event) : Host :=
  events.foldl after host

/-- An event creates the engine with some number. -/
def Event.Creates (number : Nat) : Event → Prop
  | .create engine .. => engine = number
  | _ => False

/-- An event uses the engine with some number. -/
def Event.Uses (number : Nat) : Event → Prop
  | .use engine _ => engine = number
  | _ => False

/-- The ids that an engine leaves out after an event. -/
def Event.leftOut (number : Nat) (ids : List String) : Event → List String
  | .skip engine others => if engine = number then others else ids
  | _ => ids

@[simp]
theorem session_engine (host : Host) (number : Nat) :
    (host.session number).engine = (host.workers number).engine :=
  rfl

@[simp]
theorem engine_adopt (host : Host) (number : Nat) (next : Session) :
    ((host.adopt number next).workers number).engine = next.engine := by
  simp [adopt]

/-- An engine that is not used and not created again stays, but for the ids that it
leaves out. -/
theorem workers_after {number : Nat} {event : Event} (kept : ¬event.Creates number)
    (idle : ¬event.Uses number) (host : Host) :
    let worker := host.workers number
    (host.after event).workers number =
      { worker with
        engine := { worker.engine with
          skipped := event.leftOut number worker.engine.skipped } } := by
  cases event with
  | use engine operation =>
      have other : engine ≠ number := idle
      simp [after, adopt, Event.leftOut, other.symm]
  | create engine asks configuration skipped =>
      have other : engine ≠ number := kept
      simp [after, Event.leftOut, other.symm]
  | register id scopeName rule =>
      simp only [after]
      split <;> rfl
  | skip engine ids =>
      by_cases own : engine = number
      · subst own
        simp [after, Event.leftOut]
      · simp [after, Event.leftOut, own, Ne.symm own]
  | reset reader => rfl
  | reread reader origin => rfl
  | write files => rfl
  | edit units => rfl

/-- What an engine has found or built outlasts every event, unless a new engine takes its
number. -/
theorem extends_after {number : Nat} {event : Event} (kept : ¬event.Creates number) (host : Host) :
    (host.workers number).engine.Extends ((host.after event).workers number).engine := by
  by_cases used : event.Uses number
  · cases event with
    | use engine operation =>
        obtain rfl : engine = number := used
        rw [after, engine_adopt]
        exact operation.along Session.transit_extends (host.session engine)
    | _ => cases used
  · rw [workers_after kept used host]
    exact ⟨fun _ same => same, fun _ same => same⟩

theorem extends_run {number : Nat} {events : List Event}
    (kept : ∀ event ∈ events, ¬event.Creates number) (host : Host) :
    (host.workers number).engine.Extends ((host.run events).workers number).engine := by
  induction events generalizing host with
  | nil => exact .refl _
  | cons event rest ih =>
      rw [List.forall_mem_cons] at kept
      exact (extends_after kept.1 host).trans (ih kept.2 (host.after event))

theorem workers_run {number : Nat} {events : List Event}
    (kept : ∀ event ∈ events, ¬event.Creates number)
    (idle : ∀ event ∈ events, ¬event.Uses number) (host : Host) :
    let worker := host.workers number
    (host.run events).workers number =
      { worker with
        engine := { worker.engine with
          skipped := events.foldl (Event.leftOut number) worker.engine.skipped } } := by
  induction events generalizing host with
  | nil => rfl
  | cons event rest ih =>
      rw [List.forall_mem_cons] at kept idle
      have first := workers_after kept.1 idle.1 host
      have others := ih kept.2 idle.2 (host.after event)
      rw [first] at others
      exact others

end Host

/-! ## Snapshots -/

/-- An engine has found its configuration and built its rules. -/
structure Engine.HasBuilt (engine : Engine) (config : Configuration) (table : RuleTable) :
    Prop where
  configured : engine.configuration = some config
  built : engine.table = some table

theorem Engine.HasBuilt.mono {before after : Engine} {config : Configuration} {table : RuleTable}
    (has : before.HasBuilt config table) (extended : before.Extends after) :
    after.HasBuilt config table :=
  ⟨extended.configuration config has.configured, extended.table table has.built⟩

/-- An engine that has built its rules works by them and by its configuration. -/
theorem Engine.HasBuilt.worksBy {session : Session} {config : Configuration} {table : RuleTable}
    (has : session.engine.HasBuilt config table) : session.WorksBy config table := by
  have works := Session.worksBy_of_found (Session.found_of_configured has.configured)
  rwa [Session.rulesUnder, has.built, Option.getD_some] at works

/-- The first reading of the rules builds them. -/
theorem Session.hasBuilt_of_run_table {session next : Session} {table : RuleTable}
    (unbuilt : session.engine.table = none) (ran : session.run Session.table = (.ok table, next)) :
    ∃ config, next.engine.HasBuilt config table := by
  obtain ⟨result, engine, -⟩ := run_table_of_unbuilt unbuilt
  rw [ran] at result engine
  cases found : session.found with
  | error fault =>
      rw [found] at result
      cases result
  | ok config =>
      rw [found] at result engine
      cases result
      exact ⟨config, by rw [engine]; rfl, by rw [engine]; rfl⟩

/-- A walk that gives an outcome has a configuration. -/
theorem Session.run_execute_inv {session next : Session} {place : Nat} {outcome : Outcome}
    (ran : session.run (execute place) = (.ok outcome, next)) :
    let unit := session.units.getD place {}
    ∃ config,
      let walk := walkUnit config (session.rulesUnder config) unit
      outcome.untimed = walk.outcome ∧ next.units = session.units.set place walk.unit ∧
      next.engine.configuration = some config ∧
      (RulesCount config unit → next.engine.table = some (session.rulesUnder config)) := by
  cases found : session.found with
  | error fault =>
      rw [run_execute_of_unfound found place] at ran
      cases ran
  | ok config =>
      obtain ⟨_, _, walked, specified⟩ := run_execute_of_found found place
      rw [ran] at walked
      cases walked
      exact ⟨config, specified⟩

/-- After a walk, the engine walks an equal unit to the same end, whatever has been added
to what it has, and wherever the unit is. -/
theorem Session.run_execute_again {session later next : Session} {place again : Nat}
    {outcome : Outcome} (ran : session.run (execute place) = (.ok outcome, next))
    (extended : next.engine.Extends later.engine)
    (equal : later.units.getD again {} = session.units.getD place {}) :
    ∃ same last walked, later.run (execute again) = (.ok same, last) ∧
      same.untimed = outcome.untimed ∧ next.units = session.units.set place walked ∧
      last.units = later.units.set again walked := by
  obtain ⟨config, untimed, units, configured, counted⟩ := run_execute_inv ran
  have foundLater := found_of_configured (extended.configuration config configured)
  obtain ⟨same, last, ranLater, untimedLater, unitsLater, -, -⟩ :=
    run_execute_of_found foundLater again
  -- Either the walk left the table that it used, or the rules do not count.
  have walks : walkUnit config (later.rulesUnder config) (session.units.getD place {}) =
      walkUnit config (session.rulesUnder config) (session.units.getD place {}) := by
    by_cases counts : RulesCount config (session.units.getD place {})
    · have rules : later.rulesUnder config = session.rulesUnder config := by
        rw [rulesUnder, extended.table _ (counted counts), Option.getD_some]
      rw [rules]
    · exact walkUnit_of_not_rulesCount counts _ _
  rw [equal, walks] at untimedLater unitsLater
  exact ⟨same, last, _, ranLater, untimedLater.trans untimed.symm, units, unitsLater⟩

open Host in
/-- What an engine does over all that happens in its host.

An engine builds its rules when they are read for the first time, or with the first walk
for which they count. Once it has built them it keeps them with its configuration and
works by both. From any walk on, a walk of an equal unit gives the same, but for the time,
and leaves the unit the same. An engine that has built no rules works by what there is at
that time, and so does a new engine until it is used; meanwhile only the ids that it
leaves out change in it. -/
theorem engine_keeps_snapshot {number : Nat} {events : List Event}
    (kept : ∀ event ∈ events, ¬event.Creates number) (host : Host) :
    let session := host.session number
    (∀ table next, session.engine.table = none → session.run Session.table = (.ok table, next) →
      ∃ config, next.engine.HasBuilt config table) ∧
    (∀ place outcome next, session.run (Session.execute place) = (.ok outcome, next) →
      let unit := session.units.getD place {}
      let later := ((host.adopt number next).run events).session number
      (∃ config, next.engine.configuration = some config ∧
        (Session.RulesCount config unit →
          next.engine.HasBuilt config (session.rulesUnder config))) ∧
      ∀ again, later.units.getD again {} = unit →
        ∃ same last walked, later.run (Session.execute again) = (.ok same, last) ∧
          same.untimed = outcome.untimed ∧ next.units = session.units.set place walked ∧
          last.units = later.units.set again walked) ∧
    (∀ config table, session.engine.HasBuilt config table →
      let later := (host.run events).session number
      later.engine.HasBuilt config table ∧ later.WorksBy config table) ∧
    (session.engine.table = none → session.StartsNow) ∧
    (∀ asks configuration skipped, (∀ event ∈ events, ¬event.Uses number) →
      let later := (host.after (.create number asks configuration skipped)).run events
      later.workers number =
          ⟨{ configuration, skipped := events.foldl (Event.leftOut number) skipped }, asks⟩ ∧
        (later.session number).StartsNow) := by
  intro session
  refine ⟨?_, ?_, ?_, Session.startsNow_of_unbuilt, ?_⟩
  · intro table next unbuilt ran
    exact Session.hasBuilt_of_run_table unbuilt ran
  · intro place outcome next ran unit later
    refine ⟨?_, fun again equal => ?_⟩
    · obtain ⟨config, -, -, configured, counted⟩ := Session.run_execute_inv ran
      exact ⟨config, configured, fun counts => ⟨configured, counted counts⟩⟩
    · have extended := extends_run kept (host.adopt number next)
      rw [engine_adopt] at extended
      exact Session.run_execute_again ran extended equal
  · intro config table has later
    have still : later.engine.HasBuilt config table := has.mono (extends_run kept host)
    exact ⟨still, still.worksBy⟩
  · intro asks configuration skipped idle later
    have worker := workers_run kept idle (host.after (.create number asks configuration skipped))
    simp only [after, Function.update_self] at worker
    refine ⟨worker, Session.startsNow_of_unbuilt ?_⟩
    rw [session_engine]
    exact congrArg (fun worker => worker.engine.table) worker

/-- An engine runs the rules that it has built, though one of them has been registered
again for classes and another one is to be left out, and its resolver has been reset. -/
theorem engine_keeps_snapshot_at_replaced_rule :
    let config : Configuration := { dynamicTypingAllowed := false }
    let rules := Registry.builtIn.activeRules config []
    let host : Host :=
      { readers := fun _ => {}
        workers := fun _ => { engine := { configuration := some config, table := some rules } } }
    let silent (scope : Scope) : Rule := { id := "", scope, check := fun _ _ _ => .ok [] }
    let events : List Host.Event :=
      [.register "DEF_FIELD" "class" silent, .skip 0 ["DEF_METHOD"], .reset 0,
        .create 1 0 none [], .use 1 .readIds]
    (∀ event ∈ events, ¬event.Creates 0) ∧
      (((host.run events).session 0).run Session.activeIds).1 =
        .ok ["DEF_FIELD", "DEF_METHOD", "DEF_PARAMETER"] := by
  intro config rules host silent events
  have kept : ∀ event ∈ events, ¬event.Creates 0 := by
    simp [events, Host.Event.Creates]
  obtain ⟨-, -, built, -, -⟩ := engine_keeps_snapshot kept host
  have ids : CompilePolicy.activeIds config rules =
      ["DEF_FIELD", "DEF_METHOD", "DEF_PARAMETER"] := by
    decide
  exact ⟨kept, (built config rules ⟨rfl, rfl⟩).2.ids.trans (congrArg Except.ok ids)⟩

end CompilePolicy

import CompilePolicy.Engine.Session
import CompilePolicy.Proofs.Engine.Agreement

/-!
# Engines follow the policy

An engine that was given a configuration keeps it, and the table of rules that it
builds is the one that the registered rules make. Walks preserve this, so each walk
of an engine gives the outcome of the policy and leaves the unit as the policy
does, and the outcomes of a run over many units are merged in order.
-/

namespace CompilePolicy

/-! ## Running operations -/

namespace Session

variable {α β : Type} (session : Session)

/-- A sequence runs its second part where the first one ended, unless that failed. -/
theorem run_bind (first : InSession α) (next : α → InSession β) :
    session.run (first >>= next) =
      match session.run first with
      | (.ok value, after) => after.run (next value)
      | (.error fault, after) => (.error fault, after) := by
  change (match first session with
    | (result, after) => ExceptT.bindCont next result after) = _
  unfold run
  rcases ran : first session with ⟨result, after⟩
  cases result with
  | ok value => simp [ran, ExceptT.run, StateT.run, ExceptT.bindCont]
  | error fault =>
      simp only [ran, ExceptT.run, StateT.run, ExceptT.bindCont]
      rfl

theorem run_bind_of_ok {first : InSession α} {value : α} {after : Session}
    (ran : session.run first = (.ok value, after)) (next : α → InSession β) :
    session.run (first >>= next) = after.run (next value) := by
  rw [run_bind, ran]

theorem run_pure (value : α) : session.run (pure value) = (.ok value, session) :=
  rfl

theorem run_get : session.run get = (.ok session, session) :=
  rfl

theorem run_set (next : Session) : session.run (set next) = (.ok PUnit.unit, next) :=
  rfl

theorem run_report (records : List Journal.Record) :
    session.run (report records) =
      (.ok (), { session with records := session.records ++ records }) :=
  rfl

theorem run_setUnit (position : Nat) (unit : CompilationUnit) :
    session.run (setUnit position unit) =
      (.ok (), { session with units := session.units.set position unit }) :=
  rfl

theorem run_setClass (unit position : Nat) (decl : ClassDecl) :
    session.run (setClass unit position decl) =
      (.ok (), { session with
        units := session.units.set unit
          { session.units.getD unit {} with
            classes := (session.units.getD unit {}).classes.set position decl } }) :=
  rfl

theorem run_readClock :
    session.run readClock =
      (.ok session.clock.advance.now, { session with clock := session.clock.advance }) :=
  rfl

end Session

/-! ## Engines that know their configuration -/

namespace Session

variable {session : Session} {config : Configuration}

theorem run_configuration_of_known (known : session.engine.configuration = some config) :
    session.run configuration = (.ok config, session) := by
  rw [configuration, run_bind_of_ok session (run_get session), known]
  exact run_pure session config

/-- An engine that knows its configuration finds some rules, and keeps at most those. -/
theorem run_tableFor_of_known (known : session.engine.configuration = some config) :
    ∃ table engine, session.run (tableFor config) = (.ok table, { session with engine }) ∧
      engine.configuration = some config := by
  unfold tableFor
  split
  · rw [table, run_bind_of_ok session (run_get session)]
    cases kept : session.engine.table with
    | some table => exact ⟨table, session.engine, run_pure session table, known⟩
    | none =>
        dsimp only
        rw [run_bind_of_ok session (run_configuration_of_known known),
          run_bind_of_ok session (run_get session)]
        exact ⟨_, _, rfl, known⟩
  · exact ⟨⟨[]⟩, session.engine, run_pure session _, known⟩

end Session

/-- The engine has a configuration and leaves out some ids, and the table that it has
built, if any, holds the built-in rules that this selects. -/
structure Session.IsReady (config : Configuration) (skipped : List String) (session : Session) :
    Prop where
  configured : session.engine.configuration = some config
  skips : session.engine.skipped = skipped
  registered : session.registry = Registry.builtIn
  built : ∀ table, session.engine.table = some table →
    table = Registry.builtIn.activeRules config skipped

namespace Session.IsReady

variable {config : Configuration} {skipped : List String} {session : Session}

/-- Being ready depends on the engine and the registry only. -/
theorem of_engine {next : Session} (ready : session.IsReady config skipped)
    (engine : next.engine = session.engine) (registry : next.registry = session.registry) :
    next.IsReady config skipped := by
  rcases ready with ⟨configured, skips, registered, built⟩
  exact ⟨engine ▸ configured, engine ▸ skips, registry ▸ registered, engine ▸ built⟩

theorem run_configuration (ready : session.IsReady config skipped) :
    session.run configuration = (.ok config, session) :=
  run_configuration_of_known ready.configured

/-- The table of rules is built from the registry once, and kept. -/
theorem run_table (ready : session.IsReady config skipped) :
    ∃ engine, session.run table =
        (.ok (Registry.builtIn.activeRules config skipped), { session with engine }) ∧
      { session with engine }.IsReady config skipped := by
  cases kept : session.engine.table with
  | some table =>
      refine ⟨session.engine, ?_, ready⟩
      rw [Session.table, run_bind_of_ok session (run_get session), kept, ← ready.built table kept]
      exact run_pure session table
  | none =>
      refine ⟨{ session.engine with table := some (Registry.builtIn.activeRules config skipped) },
        ?_, ready.configured, ready.skips, ready.registered, ?_⟩
      · rw [Session.table, run_bind_of_ok session (run_get session), kept]
        rw [run_bind_of_ok session ready.run_configuration]
        rw [run_bind_of_ok session (run_get session)]
        rw [ready.registered, ready.skips]
        rfl
      · intro table same
        exact (Option.some.inj same).symm

end Session.IsReady

/-- Where nothing is enforced, a walk does not depend on the rules. -/
theorem walkUnit_of_inactive {config : Configuration}
    (inactive : config.enforcementActive = false) (table other : RuleTable)
    (unit : CompilationUnit) : walkUnit config table unit = walkUnit config other unit := by
  have visits : visitClass config table unit.name = visitClass config other unit.name := by
    funext decl
    simp [visitClass, checkClass, inactive]
  simp [walkUnit, walkClasses, visitsOutcome, activeIds, inactive, visits]

/-- A skipped unit is not walked, whatever the rules are. -/
theorem walkUnit_of_skipped {config : Configuration} {unit : CompilationUnit} {reason : SkipReason}
    (skips : skipReason? config unit = some reason) (table other : RuleTable) :
    walkUnit config table unit = walkUnit config other unit := by
  simp [walkUnit, skips]

/-- An outcome without its time. -/
def Outcome.untimed (outcome : Outcome) : Outcome :=
  { outcome with seconds := 0 }

/-- Outcomes that are the same without their times differ in those only. -/
theorem Outcome.eq_of_untimed_eq {first second : Outcome} (same : first.untimed = second.untimed) :
    first = { second with seconds := first.seconds } := by
  rcases first with ⟨⟩
  rcases second with ⟨⟩
  simpa [untimed] using same

/-- The time of a walk is measured by the engine. -/
theorem untimed_walkUnit (config : Configuration) (table : RuleTable) (unit : CompilationUnit) :
    (walkUnit config table unit).outcome.untimed = (walkUnit config table unit).outcome := by
  unfold walkUnit
  split <;> rfl

theorem untimed_merge (first second : Outcome) :
    (first.merge second).untimed = (first.untimed.merge second.untimed).untimed :=
  rfl

/-- Merging more outcomes onto one does not mix its time with the rest. -/
theorem untimed_foldl_merge (outcomes : List Outcome) {first second : Outcome}
    (same : first.untimed = second.untimed) :
    (outcomes.foldl Outcome.merge first).untimed =
      (outcomes.foldl Outcome.merge second).untimed := by
  induction outcomes generalizing first second with
  | nil => exact same
  | cons next rest ih =>
      apply ih
      rw [untimed_merge, same, ← untimed_merge]

theorem set_getD {α : Type} (values : List α) (position : Nat) (default : α) :
    values.set position (values.getD position default) = values := by
  by_cases inside : position < values.length
  · rw [List.getD_eq_getElem?_getD, List.getElem?_eq_getElem inside, Option.getD_some,
      List.set_getElem_self]
  · exact List.set_eq_of_length_le (Nat.le_of_not_lt inside)

/-- An engine that finds its configuration and its rules walks the unit in some place: it
gives what the walk gives, but for the time, and puts the unit after the walk in the
place. It has no use for the rules if the unit is skipped. -/
theorem Session.run_execute_of_resolved {session begun : Session} {config : Configuration}
    {table : RuleTable} {engine : Engine}
    (resolved : Session.run { session with clock := session.clock.advance } configuration =
      (.ok config, begun))
    (built : begun.run (tableFor config) = (.ok table, { begun with engine })) (position : Nat) :
    let walk := walkUnit config table (begun.units.getD position {})
    ∃ outcome next, session.run (execute position) = (.ok outcome, next) ∧
      outcome.untimed = walk.outcome ∧ next.units = begun.units.set position walk.unit ∧
      next.records = begun.records ++ walk.records ∧ next.registry = begun.registry ∧
      next.engine =
        if skipReason? config (begun.units.getD position {}) = none then engine
        else begun.engine := by
  intro walk
  rw [execute, run_bind_of_ok session (run_readClock session), run_bind_of_ok _ resolved,
    run_bind_of_ok _ (run_get _)]
  dsimp only
  cases reason : skipReason? config (begun.units.getD position {}) with
  | some reason' =>
      have same : walkUnit config ⟨[]⟩ (begun.units.getD position {}) = walk :=
        walkUnit_of_skipped reason _ _
      have left : walk.unit = begun.units.getD position {} := by
        simp only [walk, walkUnit, reason]
      simp only [same]
      rw [run_bind_of_ok _ (run_report _ walk.records)]
      refine ⟨_, _, run_pure _ _, untimed_walkUnit .., ?_, rfl, rfl, rfl⟩
      rw [left, set_getD]
  | none =>
      rw [run_bind_of_ok _ built, run_bind_of_ok _ (run_setUnit _ position walk.unit),
        run_bind_of_ok _ (run_readClock _), run_bind_of_ok _ (run_report _ walk.records)]
      exact ⟨_, _, run_pure _ _, untimed_walkUnit config table _, rfl, rfl, rfl, rfl⟩

namespace Session.IsReady

variable {config : Configuration} {skipped : List String} {session : Session}

/-- The rules for a walk make the walk that the registered rules make. -/
theorem run_tableFor (ready : session.IsReady config skipped) :
    ∃ table engine, session.run (tableFor config) = (.ok table, { session with engine }) ∧
      { session with engine }.IsReady config skipped ∧
      walkUnit config table = walkUnit config (Registry.builtIn.activeRules config skipped) := by
  cases active : config.enforcementActive with
  | false =>
      refine ⟨⟨[]⟩, session.engine, ?_, ready, ?_⟩
      · simp only [tableFor, active, Bool.false_eq_true, if_false]
        exact run_pure session _
      · funext unit
        exact walkUnit_of_inactive active _ _ unit
  | true =>
      rcases ready.run_table with ⟨engine, ran, still⟩
      refine ⟨_, engine, ?_, still, rfl⟩
      simpa only [tableFor, active, if_true] using ran

/-- An engine walks the unit in some place: it gives what the walk under the registered
rules gives, but for the time, and puts the unit after the walk in the place. -/
theorem run_execute_at (ready : session.IsReady config skipped) (position : Nat) :
    let walk := walkUnit config (Registry.builtIn.activeRules config skipped)
      (session.units.getD position {})
    ∃ outcome next, session.run (execute position) = (.ok outcome, next) ∧
      next.IsReady config skipped ∧ outcome.untimed = walk.outcome ∧
      next.units = session.units.set position walk.unit ∧
      next.records = session.records ++ walk.records := by
  have begun : { session with clock := session.clock.advance }.IsReady config skipped :=
    ready.of_engine rfl rfl
  rcases begun.run_tableFor with ⟨table, engine, built, withTable, same⟩
  rcases run_execute_of_resolved begun.run_configuration built position with
    ⟨outcome, next, ran, walked, units, records, registry, engines⟩
  rw [same] at walked units records
  refine ⟨outcome, next, ran, ?_, walked, units, records⟩
  split at engines
  · exact withTable.of_engine engines registry
  · exact begun.of_engine engines registry

/-- The unit that is walked, among the others. -/
theorem run_execute (ready : session.IsReady config skipped)
    {before after : List CompilationUnit} {unit : CompilationUnit}
    (units : session.units = before ++ unit :: after) :
    let walk := walkUnit config (Registry.builtIn.activeRules config skipped) unit
    ∃ outcome next, session.run (execute before.length) = (.ok outcome, next) ∧
      next.IsReady config skipped ∧ outcome.untimed = walk.outcome ∧
      next.units = before ++ walk.unit :: after ∧
      next.records = session.records ++ walk.records := by
  have found : session.units.getD before.length {} = unit := by
    simp [units]
  rcases ready.run_execute_at before.length with
    ⟨outcome, next, ran, ready', same, placed, reported⟩
  rw [found] at same placed reported
  refine ⟨outcome, next, ran, ready', same, ?_, reported⟩
  rw [placed, units]
  simp

/-- Walks of the last units of a session, in order. -/
theorem run_executeOnto (ready : session.IsReady config skipped) (outcome : Outcome)
    {before after : List CompilationUnit} (units : session.units = before ++ after) :
    let walk := walkUnit config (Registry.builtIn.activeRules config skipped)
    ∃ merged next,
      session.run (executeOnto outcome (List.range' before.length after.length)) =
        (.ok merged, next) ∧
      next.IsReady config skipped ∧
      merged.untimed =
        ((after.map fun unit => (walk unit).outcome).foldl Outcome.merge outcome).untimed ∧
      next.units = before ++ after.map (fun unit => (walk unit).unit) ∧
      next.records = session.records ++ after.flatMap fun unit => (walk unit).records := by
  intro walk
  induction after generalizing session before outcome with
  | nil => exact ⟨outcome, session, run_pure session outcome, ready, rfl, by simpa using units,
      by simp⟩
  | cons unit rest ih =>
      rcases ready.run_execute units with ⟨first, next, ran, ready', same, placed, reported⟩
      have units' : next.units = (before ++ [(walk unit).unit]) ++ rest := by
        simpa using placed
      rcases ih ready' (outcome.merge first) units' with
        ⟨merged, last, ran', ready'', same', placed', reported'⟩
      refine ⟨merged, last, ?_, ready'', ?_, ?_, ?_⟩
      · rw [List.length_cons, List.range'_succ, executeOnto, run_bind_of_ok session ran]
        simpa using ran'
      · rw [same']
        simp only [List.map_cons, List.foldl_cons]
        rw [← same]
        exact untimed_foldl_merge _ rfl
      · simpa using placed'
      · rw [reported', reported]
        simp [walk]

/-- Walks of all units of a session, in order. -/
theorem run_executeMany (ready : session.IsReady config skipped) :
    let walk := walkUnit config (Registry.builtIn.activeRules config skipped)
    ∃ merged next,
      session.run (executeMany (List.range session.units.length)) = (.ok merged, next) ∧
      next.IsReady config skipped ∧
      merged.untimed =
        ((session.units.map fun unit => (walk unit).outcome).foldl Outcome.merge {}).untimed ∧
      next.units = session.units.map (fun unit => (walk unit).unit) ∧
      next.records = session.records ++ session.units.flatMap fun unit => (walk unit).records := by
  have all := @run_executeOnto _ _ _ ready {} [] session.units rfl
  rw [List.length_nil, ← List.range_eq_range'] at all
  exact all

end Session.IsReady

/-! ## Engines and the policy -/

/-- An engine that is given a configuration does what the policy says, with any unit
among any others: it gives the outcome of the policy, but for the time, and leaves the
unit as the policy does. -/
theorem execute_eq_policy (session : Session) (config : Configuration) (skipped : List String)
    (before after : List CompilationUnit) (unit : CompilationUnit) :
    ∃ outcome next,
      Session.run
          { session with
            units := before ++ unit :: after
            registry := .builtIn
            engine := { configuration := some config, skipped } }
          (Session.execute before.length) =
        (.ok outcome, next) ∧
      outcome.untimed = Policy.outcome config skipped unit ∧
      next.units = before ++ Policy.unitAfter config unit :: after := by
  have ready : Session.IsReady config skipped
      { session with
        units := before ++ unit :: after
        registry := .builtIn
        engine := { configuration := some config, skipped } } :=
    ⟨rfl, rfl, rfl, by simp⟩
  rcases ready.run_execute rfl with ⟨outcome, next, ran, _, same, placed, _⟩
  rcases Policy.walkUnit_builtIn config skipped unit with ⟨asPolicy, leaves⟩
  refine ⟨outcome, next, ran, ?_, ?_⟩
  · rw [same, asPolicy]
  · rw [placed, leaves]

end CompilePolicy

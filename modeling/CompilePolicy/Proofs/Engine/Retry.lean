import CompilePolicy.Proofs.Engine.Accounting
import CompilePolicy.Proofs.Engine.Joining
import CompilePolicy.Proofs.Policy.Resolution

/-!
# Operations that fail

An operation fails only where its engine is to find a configuration and finds none. That is
before anything else is written, so the operation leaves what it found, but for the clock
and for the number of times that the properties were read. The engine then has neither a
configuration nor rules. When the reason is gone it works as a new engine does.
-/

namespace CompilePolicy

open Conventions Policy

/-! ## What operations give -/

/-- What an operation gives where it succeeds. -/
inductive Answer where
  | walks (outcome : Outcome)
  | marks (given : Bool)
  | checks (outcome : Outcome)
  | configuration (config : Configuration)
  | rules (table : RuleTable)
  | ids (ids : List String)

/-- An operation in the session of the engine that is asked. -/
def Operation.perform : Operation → InSession Answer
  | .call (.execute unit) => .walks <$> Session.execute unit
  | .call (.executeMany units) => .walks <$> Session.executeMany units
  | .call (.attach unit decl) => .marks <$> Session.attach unit decl
  | .call (.enforce unit decl unitName) => .checks <$> Session.enforce unit decl unitName
  | .readConfiguration => .configuration <$> Session.configuration
  | .readRules => .rules <$> Session.table
  | .readIds => .ids <$> Session.activeIds

namespace Session

variable {α β : Type} {session : Session} {config : Configuration} {fault : SourceFault}

theorem run_map (change : α → β) (operation : InSession α) :
    session.run (change <$> operation) =
      ((session.run operation).1.map change, (session.run operation).2) := by
  rw [map_eq_pure_bind, run_bind]
  rcases session.run operation with ⟨_ | value, after⟩ <;> rfl

/-- An operation succeeds in a session. -/
def Succeeds (session : Session) (operation : InSession α) : Prop :=
  ∃ value next, session.run operation = (.ok value, next)

theorem Succeeds.map {operation : InSession α} (succeeds : session.Succeeds operation)
    (change : α → β) : session.Succeeds (change <$> operation) := by
  obtain ⟨value, next, ran⟩ := succeeds
  exact ⟨change value, next, by rw [run_map, ran, Except.map]⟩

theorem succeeds_attach (found : session.found = .ok config) (unit decl : Nat) :
    session.Succeeds (attach unit decl) := by
  rw [Succeeds, attach, run_bind_of_ok session (run_get session)]
  dsimp only
  split
  · exact ⟨false, session, rfl⟩
  · obtain ⟨resolver, records, ran⟩ := run_configuration_of_found found
    rw [run_bind_of_ok session ran]
    exact ⟨true, _, rfl⟩

theorem succeeds_enforce (found : session.found = .ok config) (unit decl : Nat)
    (unitName : String) : session.Succeeds (enforce unit decl unitName) := by
  obtain ⟨resolver, records, ran⟩ := run_configuration_of_found found
  rw [Succeeds, enforce, run_bind_of_ok session ran, run_bind, run_tableFor_of_configured rfl]
  cases config.enforcementActive <;> exact ⟨_, _, rfl⟩

/-- An engine that finds its configuration succeeds, whatever the rules do. -/
theorem succeeds_perform (found : session.found = .ok config) (operation : Operation) :
    session.Succeeds operation.perform := by
  have works := worksBy_of_found found
  cases operation with
  | call made =>
      cases made with
      | execute place =>
          obtain ⟨outcome, next, ran, -⟩ := works.walk place
          exact Succeeds.map ⟨outcome, next, ran⟩ _
      | executeMany places => exact Succeeds.map (run_executeMany_of_found found places) _
      | attach unit decl => exact (succeeds_attach found unit decl).map _
      | enforce unit decl unitName => exact (succeeds_enforce found unit decl unitName).map _
  | readConfiguration => exact Succeeds.map ⟨config, _, Prod.ext works.configuration rfl⟩ _
  | readRules => exact Succeeds.map ⟨_, _, Prod.ext works.rules rfl⟩ _
  | readIds => exact Succeeds.map ⟨_, _, Prod.ext works.ids rfl⟩ _

/-- An operation fails and leaves a session as it was, but for the clock and the readings. -/
def FailsEarly (session : Session) (fault : SourceFault) (operation : InSession α) : Prop :=
  ∃ clock, session.run operation = (.error fault, { session.reread with clock })

theorem FailsEarly.map {operation : InSession α} (fails : session.FailsEarly fault operation)
    (change : α → β) : session.FailsEarly fault (change <$> operation) := by
  obtain ⟨clock, ran⟩ := fails
  exact ⟨clock, by rw [run_map, ran, Except.map]⟩

theorem FailsEarly.bind {first : InSession α} (fails : session.FailsEarly fault first)
    (next : α → InSession β) : session.FailsEarly fault (first >>= next) := by
  obtain ⟨clock, ran⟩ := fails
  exact ⟨clock, by rw [run_bind, ran]⟩

theorem failsEarly_configuration (unfound : session.found = .error fault) :
    session.FailsEarly fault configuration :=
  ⟨session.clock, run_configuration_of_unfound unfound⟩

/-- An engine that finds no configuration fails before it writes anything, unless it is
asked for what needs none. -/
theorem failsEarly_perform (unfound : session.found = .error fault) (operation : Operation) :
    session.FailsEarly fault operation.perform ∨
      ∃ answer, session.run operation.perform = (.ok answer, session) := by
  have early := failsEarly_configuration unfound
  cases operation with
  | call made =>
      cases made with
      | execute place => exact .inl (FailsEarly.map ⟨_, run_execute_of_unfound unfound place⟩ _)
      | executeMany places =>
          cases places with
          | nil => exact .inr ⟨.walks {}, rfl⟩
          | cons place rest =>
              exact .inl (FailsEarly.map ⟨_, run_executeMany_cons_of_unfound unfound place rest⟩ _)
      | attach unit decl =>
          -- A class that has chosen its mode is left before a configuration is asked for.
          cases chosen : choosesMode (session.classAt unit decl) with
          | true =>
              refine .inr ⟨.marks false, ?_⟩
              rw [Operation.perform, run_map, attach, run_bind_of_ok session (run_get session)]
              simp only [chosen, if_true]
              rfl
          | false =>
              refine .inl (FailsEarly.map ?_ _)
              rw [FailsEarly, attach, run_bind_of_ok session (run_get session)]
              simp only [chosen]
              exact early.bind _
      | enforce unit decl unitName => exact .inl ((early.bind _).map _)
  | readConfiguration => exact .inl (early.map _)
  | readRules =>
      cases kept : session.engine.table with
      | some table =>
          refine .inr ⟨.rules table, ?_⟩
          rw [Operation.perform, run_map, run_table_of_kept kept, Except.map]
      | none =>
          refine .inl (FailsEarly.map ?_ _)
          rw [FailsEarly, Session.table, run_bind_of_ok session (run_get session), kept]
          exact early.bind _
  | readIds => exact .inl ((early.bind _).map _)

/-- An operation that fails has found no configuration, and has written nothing. -/
theorem failsEarly_of_error {next : Session} {operation : Operation}
    (failed : session.run operation.perform = (.error fault, next)) :
    session.found = .error fault ∧ ∃ clock, next = { session.reread with clock } := by
  cases found : session.found with
  | ok config =>
      obtain ⟨answer, last, ran⟩ := succeeds_perform found operation
      rw [failed] at ran
      cases ran
  | error other =>
      rcases failsEarly_perform found operation with ⟨clock, ran⟩ | ⟨answer, ran⟩
      · rw [failed] at ran
        cases ran
        exact ⟨rfl, clock, rfl⟩
      · rw [failed] at ran
        cases ran

end Session

/-- Asking for what an operation gives leaves the session that the operation leaves. -/
theorem Operation.run_perform (session : Session) (operation : Operation) :
    (session.run operation.perform).2 = operation.sessionAfter session := by
  cases operation with
  | call made => cases made <;> rw [perform, Session.run_map] <;> rfl
  | readConfiguration => rw [perform, Session.run_map, sessionAfter]
  | readRules => rw [perform, Session.run_map, sessionAfter]
  | readIds => rw [perform, Session.run_map, sessionAfter]

/-! ## Configurations come before rules -/

/-- An engine has found its configuration before it builds its rules. -/
def Engine.FindsFirst (engine : Engine) : Prop :=
  engine.configuration = none → engine.table = none

/-- No operation builds rules without a configuration. -/
theorem Session.transit_findsFirst :
    Transit fun before after => before.engine.FindsFirst → after.engine.FindsFirst where
  trans start rest first := rest (start first)
  apart engine _ first := engine ▸ first
  configuration session first := by
    obtain ⟨resolver, records, ran⟩ := run_configuration_eq session
    rw [ran]
    cases found : session.found with
    | ok config => exact fun none => nomatch none
    | error fault => exact fun _ => first (found_eq_error_iff.mp found).1
  table session first := by
    cases kept : session.engine.table with
    | some table =>
        rw [run_table_of_kept kept]
        exact first
    | none =>
        rw [(run_table_of_unbuilt kept).2.1]
        cases session.found with
        | ok config => exact fun none => nomatch none
        | error fault => exact fun _ => rfl

namespace Host

/-- Nothing that happens in a host makes an engine build rules without a configuration. -/
theorem findsFirst_after {host : Host} (first : ∀ number, (host.workers number).engine.FindsFirst)
    (event : Event) : ∀ number, ((host.after event).workers number).engine.FindsFirst := by
  have updated : ∀ (engine : Nat) (worker : Worker), worker.engine.FindsFirst →
      ∀ number, (Function.update host.workers engine worker number).engine.FindsFirst :=
    fun engine worker own =>
      (Function.forall_update_iff host.workers fun _ worker => worker.engine.FindsFirst).mpr
        ⟨own, fun number _ => first number⟩
  cases event with
  | use engine operation =>
      exact updated engine _ (operation.along Session.transit_findsFirst _ (first engine))
  | create engine asks configuration skipped => exact updated engine _ fun _ => rfl
  | register id scopeName rule =>
      rw [after_register]
      exact first
  | skip engine ids => exact updated engine _ (first engine)
  | reset reader => exact first
  | reread reader origin => exact first
  | write files => exact first
  | edit units => exact first

theorem findsFirst_run {host : Host} (first : ∀ number, (host.workers number).engine.FindsFirst)
    (events : List Event) : ∀ number, ((host.run events).workers number).engine.FindsFirst := by
  induction events generalizing host with
  | nil => exact first
  | cons event rest ih => exact ih (findsFirst_after first event)

end Host

/-! ## Engines that have found nothing -/

theorem Worker.eq_of_none {worker : Worker} (unconfigured : worker.engine.configuration = none)
    (unbuilt : worker.engine.table = none) :
    worker = ⟨{ skipped := worker.engine.skipped }, worker.asks⟩ := by
  rcases worker with ⟨⟨configuration, skipped, table⟩, asks⟩
  cases unconfigured
  cases unbuilt
  rfl

namespace Host

/-- An engine that has made its resolver read, and nothing else, changes the reader only. -/
theorem adopt_reread (host : Host) (number : Nat) (clock : Clock) :
    let asks := (host.workers number).asks
    let reader := host.readers asks
    host.adopt number { (host.session number).reread with clock } =
      { host with
        clock
        readers := Function.update host.readers asks
          { reader with
            resolver := { reader.resolver with reads := reader.resolver.reads + 1 } } } := by
  have own := Function.update_eq_self number host.workers
  exact congrArg (mk host.units host.registry host.files clock host.records _) own

/-- An engine that has found and built nothing works as a new one does, under any number. -/
theorem session_after_create {host : Host} {number : Nat}
    (unconfigured : (host.workers number).engine.configuration = none)
    (unbuilt : (host.workers number).engine.table = none) (fresh : Nat) :
    let worker := host.workers number
    (host.after (.create fresh worker.asks none worker.engine.skipped)).session fresh =
      host.session number := by
  have new := Worker.eq_of_none unconfigured unbuilt
  simp only [session, after, Function.update_self]
  rw [new]

end Host

/-! ## Results that are kept -/

/-- A host, and the outcomes that were got from its engines. -/
structure Desk where
  host : Host
  kept : List Outcome := []

/-- The outcomes that are kept when an operation has succeeded. That of walks comes last, and
what a class was checked for is merged into one of those that are there. -/
def Answer.keep (into : Nat) (kept : List Outcome) : Answer → List Outcome
  | .walks outcome => kept ++ [outcome]
  | .checks outcome => kept.set into ((kept.getD into {}).merge outcome)
  | _ => kept

/-- Asks an engine for an operation. What it gives is kept if it succeeds. -/
def Desk.ask (desk : Desk) (number : Nat) (operation : Operation) (into : Nat) :
    Except SourceFault Answer × Desk :=
  let result := ((desk.host.session number).run operation.perform).1
  (result,
    { host := desk.host.after (.use number operation)
      kept :=
        match result with
        | .ok answer => answer.keep into desk.kept
        | .error _ => desk.kept })

namespace Desk

variable {desk left : Desk} {number into : Nat} {operation : Operation} {fault : SourceFault}

theorem run_of_ask_error (failed : desk.ask number operation into = (.error fault, left)) :
    (desk.host.session number).run operation.perform =
        (.error fault, operation.sessionAfter (desk.host.session number)) ∧
      left = ⟨desk.host.after (.use number operation), desk.kept⟩ := by
  obtain ⟨result, rfl⟩ := Prod.mk.inj failed
  rw [result]
  exact ⟨Prod.ext result (operation.run_perform _), rfl⟩

theorem ask_of_found {config : Configuration}
    (found : (desk.host.session number).found = .ok config) (operation : Operation) (into : Nat) :
    ∃ answer next, desk.ask number operation into = (.ok answer, next) := by
  obtain ⟨answer, next, ran⟩ := Session.succeeds_perform found operation
  exact ⟨answer, (desk.ask number operation into).2, Prod.ext (congrArg (·.1) ran) rfl⟩

/-- Engines with equal sessions give the same. -/
theorem ask_congr (desk other : Desk) {number another : Nat}
    (session : other.host.session another = desk.host.session number)
    (kept : other.kept = desk.kept) (operation : Operation) (into : Nat) :
    let one := desk.ask number operation into
    let two := other.ask another operation into
    two.1 = one.1 ∧ two.2.kept = one.2.kept ∧ two.2.host.units = one.2.host.units := by
  refine ⟨?_, ?_, ?_⟩
  · rw [ask, ask, session]
  · rw [ask, ask, session, kept]
  · exact congrArg (fun session => (operation.sessionAfter session).units) session

end Desk

/-! ## Failing and asking again -/

/-- An operation fails at some point of what happens in a host in which no engine had built
rules at first. All outcomes that were kept stay, and so does the host, but for the clock
and the count of readings: the tree, the registry, the files, the records, all engines, and
what all resolvers have found. The engine has neither a configuration nor rules, its
resolver has none, and it is the source that ended the resolution. As long as the engine is
not used again, what happens then leaves it as a new one that has the same resolver and
leaves out the same ids. So the same operation gives what it gives a new engine, and it
succeeds once a configuration is to be found. -/
theorem failed_operation_changes_nothing (start : Host)
    (unbuilt : ∀ number, (start.workers number).engine.table = none) (events : List Host.Event)
    (kept : List Outcome) (number : Nat) (operation : Operation) (into : Nat)
    {fault : SourceFault} {left : Desk}
    (failed : Desk.ask ⟨start.run events, kept⟩ number operation into = (.error fault, left)) :
    let host := start.run events
    let worker := host.workers number
    let reader := host.readers worker.asks
    left.kept = kept ∧
    (∃ clock, left.host =
      { host with
        clock
        readers := Function.update host.readers worker.asks
          { reader with
            resolver := { reader.resolver with reads := reader.resolver.reads + 1 } } }) ∧
    (worker.engine.configuration = none ∧ worker.engine.table = none ∧
      reader.resolver.current = none ∧
      resolveConfiguration host.files reader.origin.read = .error fault) ∧
    ∀ repairs : List Host.Event, (∀ event ∈ repairs, ¬event.Creates number) →
      (∀ event ∈ repairs, ¬event.Uses number) →
      let later := left.host.run repairs
      let still := later.workers number
      let again := Desk.ask ⟨later, kept⟩ number operation into
      (∀ fresh,
        let created := later.after (.create fresh still.asks none still.engine.skipped)
        let anew := Desk.ask ⟨created, kept⟩ fresh operation into
        anew.1 = again.1 ∧ anew.2.kept = again.2.kept ∧
          anew.2.host.units = again.2.host.units) ∧
      ∀ config, (later.session number).found = .ok config →
        ∃ answer next, again = (.ok answer, next) := by
  intro host worker reader
  obtain ⟨ran, rfl⟩ := Desk.run_of_ask_error failed
  obtain ⟨unfound, clock, same⟩ := Session.failsEarly_of_error ran
  obtain ⟨unconfigured, unresolved, ended⟩ := Session.found_eq_error_iff.mp unfound
  -- It has no configuration, so nothing before can have built its rules.
  have built : worker.engine.table = none :=
    Host.findsFirst_run (fun number _ => unbuilt number) events number unconfigured
  have stays : host.after (.use number operation) = _ :=
    (congrArg (host.adopt number) same).trans (host.adopt_reread number clock)
  refine ⟨rfl, ⟨clock, stays⟩, ⟨unconfigured, built, unresolved, ended⟩, ?_⟩
  intro repairs others idle later still again
  refine ⟨fun fresh => ?_, fun config found => Desk.ask_of_found found operation into⟩
  have unused : (host.after (.use number operation)).workers number = worker := by
    rw [stays]
  have now := Host.workers_run others idle (host.after (.use number operation))
  simp only [unused] at now
  have unconfiguredStill : still.engine.configuration = none :=
    (congrArg (·.engine.configuration) now).trans unconfigured
  have unbuiltStill : still.engine.table = none :=
    (congrArg (·.engine.table) now).trans built
  have same := Host.session_after_create unconfiguredStill unbuiltStill fresh
  exact Desk.ask_congr ⟨later, kept⟩ ⟨_, kept⟩ same rfl operation into

/-- A walk fails at a source with a date that is none. When other properties are read, it
gives what it gives a new engine. -/
theorem failed_operation_changes_nothing_at_impossible_date :
    let start : Host :=
      { units := [{ name := "A.groovy", targetDirectory := some "out",
                    classes := [{ name := "p.A" }] }]
        readers := fun _ => { origin := .given [(Properties.conventions, "when: 2001-99-99")] }
        workers := fun _ => {} }
    let walk : Operation := .call (.execute 0)
    ∃ left answer,
      (∀ number, (start.workers number).engine.table = none) ∧
      Desk.ask ⟨start.run [.skip 0 ["DEF_FIELD"]], [{}]⟩ 0 walk 0 =
        (.error (.document (.calendar .month)), left) ∧
      left.kept = [{}] ∧ left.host.units = start.units ∧
      let later := left.host.run [.reread 0 (.given [])]
      (Desk.ask ⟨later, [{}]⟩ 0 walk 0).1 = .ok answer ∧
      (Desk.ask ⟨later.after (.create 1 0 none ["DEF_FIELD"]), [{}]⟩ 1 walk 0).1 = .ok answer := by
  intro start walk
  have led : Properties.source? [(Properties.conventions, "when: 2001-99-99")] =
      some "when: 2001-99-99" := by
    decide
  have failed : parseSource .empty "when: 2001-99-99" = .error (.document (.calendar .month)) := by
    decide +kernel
  have ended : resolveConfiguration .empty [(Properties.conventions, "when: 2001-99-99")] =
      .error (.document (.calendar .month)) := by
    rw [resolveConfiguration_of_source led, resolveSource_of_unreplaced failed rfl]
    rfl
  let desk : Desk := ⟨start.run [.skip 0 ["DEF_FIELD"]], [{}]⟩
  have unfound : (desk.host.session 0).found = .error (.document (.calendar .month)) :=
    Session.found_eq_error_iff.mpr ⟨rfl, rfl, ended⟩
  have ran : ((desk.host.session 0).run walk.perform).1 =
      .error (.document (.calendar .month)) := by
    rw [Operation.perform, Session.run_map, Session.run_execute_of_unfound unfound]
    rfl
  have asked : desk.ask 0 walk 0 =
      (.error (.document (.calendar .month)), ⟨desk.host.after (.use 0 walk), [{}]⟩) := by
    rw [Desk.ask, ran]
  obtain ⟨kept, ⟨clock, host⟩, -, repaired⟩ := failed_operation_changes_nothing start
    (fun _ => rfl) [.skip 0 ["DEF_FIELD"]] [{}] 0 walk 0 asked
  obtain ⟨anew, succeeds⟩ := repaired [.reread 0 (.given [])] (by simp [Host.Event.Creates])
    (by simp [Host.Event.Uses])
  have defaults : (resolveConfiguration .empty []).map (·.1) = .ok {} := by
    decide
  obtain ⟨answer, next, again⟩ := succeeds {} (by rw [host]; exact defaults)
  refine ⟨_, answer, fun _ => rfl, asked, kept, by rw [host]; rfl, congrArg (·.1) again, ?_⟩
  have same := (anew 1).1.trans (congrArg (·.1) again)
  rw [host] at same ⊢
  exact same

end CompilePolicy

import CompilePolicy.Proofs.Engine.Execution

/-!
# What operations go along

Operations in a session are put together from a few parts. Two of them write to the
engine: one that finds the configuration and one that builds the rules. All others leave
the engine and the registry. So a relation that both go along, and that can be put
together, holds between the sessions before and after every operation, whether it
succeeds or fails.
-/

namespace CompilePolicy.Session

open CompilePolicy.Journal

variable {α β : Type} {related : Session → Session → Prop}

/-- An operation goes along a relation of sessions. -/
def Along (related : Session → Session → Prop) (operation : InSession α) : Prop :=
  ∀ session : Session, related session (session.run operation).2

/-- A relation of sessions that every part of an operation goes along. -/
structure Transit (related : Session → Session → Prop) : Prop where
  trans : ∀ {first second third}, related first second → related second third →
    related first third
  apart : ∀ {before after : Session}, after.engine = before.engine →
    after.registry = before.registry → related before after
  configuration : Along related configuration
  table : Along related table

namespace Transit

theorem bind (transit : Transit related) {first : InSession α} {next : α → InSession β}
    (begins : Along related first) (goesOn : ∀ value, Along related (next value)) :
    Along related (first >>= next) := by
  intro session
  have begun := begins session
  rw [run_bind]
  rcases ran : session.run first with ⟨result, after⟩
  rw [ran] at begun
  cases result with
  | error fault => exact begun
  | ok value => exact transit.trans begun (goesOn value after)

variable (transit : Transit related)
include transit

theorem pure (value : α) : Along related (pure value : InSession α) :=
  fun _ => transit.apart rfl rfl

theorem get : Along related (get : InSession Session) :=
  fun _ => transit.apart rfl rfl

theorem report (records : List Record) : Along related (report records) :=
  fun _ => transit.apart rfl rfl

theorem readClock : Along related readClock :=
  fun _ => transit.apart rfl rfl

theorem setUnit (place : Nat) (unit : CompilationUnit) : Along related (setUnit place unit) :=
  fun _ => transit.apart rfl rfl

theorem setClass (unit place : Nat) (decl : ClassDecl) :
    Along related (setClass unit place decl) :=
  fun _ => transit.apart rfl rfl

theorem tableFor (config : Configuration) : Along related (tableFor config) := by
  unfold Session.tableFor
  split
  · exact transit.table
  · exact transit.pure _

theorem activeIds : Along related activeIds :=
  transit.bind transit.configuration fun config =>
    transit.bind (transit.tableFor config) fun _ => transit.pure _

theorem execute (place : Nat) : Along related (execute place) := by
  refine transit.bind transit.readClock fun start => transit.bind transit.configuration
    fun config => transit.bind transit.get fun session => ?_
  dsimp only
  split
  · exact transit.bind (transit.report _) fun _ => transit.pure _
  · exact transit.bind (transit.tableFor config) fun _ => transit.bind (transit.setUnit _ _)
      fun _ => transit.bind transit.readClock fun _ => transit.bind (transit.report _)
      fun _ => transit.pure _

theorem executeOnto (outcome : Outcome) (places : List Nat) :
    Along related (executeOnto outcome places) := by
  induction places generalizing outcome with
  | nil => exact transit.pure outcome
  | cons place rest ih =>
      exact transit.bind (transit.execute place) fun next => ih (outcome.merge next)

theorem attach (unit place : Nat) : Along related (attach unit place) := by
  refine transit.bind transit.get fun session => ?_
  dsimp only
  split
  · exact transit.pure false
  · exact transit.bind transit.configuration fun _ => transit.bind (transit.setClass _ _ _)
      fun _ => transit.pure true

theorem enforce (unit place : Nat) (unitName : String) :
    Along related (enforce unit place unitName) :=
  transit.bind transit.configuration fun config => transit.bind (transit.tableFor config)
    fun _ => transit.bind transit.get fun _ => transit.bind (transit.report _)
    fun _ => transit.pure _

end Transit

end CompilePolicy.Session

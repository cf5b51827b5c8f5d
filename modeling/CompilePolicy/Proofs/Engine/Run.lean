import CompilePolicy.Proofs.Engine.Rerun
import CompilePolicy.Proofs.Engine.Snapshot

/-!
# Runs under any rules

A run over the units in some places, by an engine that has its configuration. It gives
the walks of these units merged, one after another on the tree that the walks before left,
and reports their records. The rules are those that the engine has built or would build
from what is registered, and a run does not change them.
-/

namespace CompilePolicy

/-! ## Walks in some places -/

namespace Policy

/-- The walks of the units in some places, one after another. -/
def walksAt (config : Configuration) (rules : RuleTable) :
    List CompilationUnit → List Nat → List Walk
  | _, [] => []
  | units, place :: rest =>
    let walk := walkUnit config rules (units.getD place {})
    walk :: walksAt config rules (units.set place walk.unit) rest

section

variable (config : Configuration) (rules : RuleTable)

theorem isSkipped_unitAfter (unit : CompilationUnit) :
    IsSkipped config (unitAfter config unit) ↔ IsSkipped config unit := by
  unfold unitAfter
  split <;> rfl

/-- The rules find the same in a unit that was walked before. -/
theorem unitResults_unitAfter (unit : CompilationUnit) :
    unitResults config rules (unitAfter config unit) = unitResults config rules unit := by
  by_cases skips : IsSkipped config unit
  · rw [unitAfter, if_pos skips]
  · simp only [unitAfter, if_neg skips, unitResults, filter_checked_after, List.flatMap_map,
      marked_marked]

/-- What is read off a walk and does not change when the unit is walked again is read off
all walks of a run as off the units before it. -/
theorem map_walksAt {α : Type} {of : Walk → α} {reading : CompilationUnit → α}
    (read : ∀ unit, of (walkUnit config rules unit) = reading unit)
    (blind : ∀ unit, reading (unitAfter config unit) = reading unit)
    (units : List CompilationUnit) (places : List Nat) :
    (walksAt config rules units places).map of =
      places.map fun place => reading (units.getD place {}) := by
  induction places generalizing units with
  | nil => rfl
  | cons first rest ih =>
      rw [walksAt, List.map_cons, List.map_cons, read, ih, unit_walkUnit]
      congr 1
      apply List.map_congr_left
      intro place _
      exact reading_set_unitAfter config blind units first place

/-- What only walks of units that are not skipped have comes from those units. -/
theorem flatMap_walksAt {α : Type} {of : Walk → List α} {own : CompilationUnit → List α}
    (read : ∀ unit,
      of (walkUnit config rules unit) = if IsSkipped config unit then [] else own unit)
    (blind : ∀ unit, own (unitAfter config unit) = own unit)
    (units : List CompilationUnit) (places : List Nat) :
    (walksAt config rules units places).flatMap of =
      (walked config (places.map (units.getD · {}))).flatMap own := by
  have still : ∀ unit, (if IsSkipped config (unitAfter config unit) then []
      else own (unitAfter config unit)) = if IsSkipped config unit then [] else own unit := by
    intro unit
    simp only [isSkipped_unitAfter, blind]
  rw [← flatMap_eq_flatMap_walked fun _ => rfl, List.flatMap_map, List.flatMap_def,
    map_walksAt config rules read still, List.flatMap_def]

/-- Walks under other rules go over the same tree, so what they have in common on every
unit they have in common in a run. -/
theorem map_walksAt_congr {α : Type} {other : RuleTable} {ofOther of : Walk → α}
    (common : ∀ unit, ofOther (walkUnit config other unit) = of (walkUnit config rules unit))
    (units : List CompilationUnit) (places : List Nat) :
    (walksAt config other units places).map ofOther = (walksAt config rules units places).map of := by
  induction places generalizing units with
  | nil => rfl
  | cons place rest ih => simp only [walksAt, List.map_cons, common, unit_walkUnit, ih]

end

end Policy

/-! ## Engines that have their configuration -/

namespace Session

/-- An engine has its configuration, and these are the rules that it has or would build. -/
structure Knows (config : Configuration) (rules : RuleTable) (session : Session) : Prop where
  configured : session.engine.configuration = some config
  rules : session.rulesUnder config = rules

namespace Knows

variable {config : Configuration} {rules : RuleTable} {session : Session}

/-- A walk keeps what the engine knows. -/
theorem run_execute (knows : session.Knows config rules) (place : Nat) :
    let walk := walkUnit config rules (session.units.getD place {})
    ∃ outcome next, session.run (execute place) = (.ok outcome, next) ∧ next.Knows config rules ∧
      outcome.untimed = walk.outcome ∧ next.units = session.units.set place walk.unit ∧
      next.records = session.records ++ walk.records := by
  obtain ⟨configured, rfl⟩ := knows
  have begun : Session.run { session with clock := session.clock.advance } configuration =
      (.ok config, { session with clock := session.clock.advance }) :=
    run_configuration_of_known configured
  have built := @run_tableFor_of_configured { session with clock := session.clock.advance } config
    configured
  cases active : config.enforcementActive with
  | true =>
      simp only [active, if_true] at built
      obtain ⟨outcome, next, ran, same, units, records, registry, engine⟩ :=
        run_execute_of_resolved begun built place
      refine ⟨outcome, next, ran, ⟨?_, ?_⟩, same, units, records⟩
      · rw [engine]
        split <;> exact configured
      · rw [rulesUnder, registry, engine]
        split <;> rfl
  | false =>
      simp only [active, Bool.false_eq_true, if_false] at built
      obtain ⟨outcome, next, ran, same, units, records, registry, engine⟩ :=
        run_execute_of_resolved begun built place
      rw [walkUnit_of_inactive active _ (session.rulesUnder config)] at same units records
      rw [ite_self] at engine
      refine ⟨outcome, next, ran, ⟨?_, ?_⟩, same, units, records⟩
      · rw [engine]
        exact configured
      · rw [rulesUnder, registry, engine]
        rfl

/-- Walks of the units in some places, one after another. -/
theorem run_executeOnto (knows : session.Knows config rules) (outcome : Outcome)
    (places : List Nat) :
    let walks := Policy.walksAt config rules session.units places
    ∃ merged next, session.run (executeOnto outcome places) = (.ok merged, next) ∧
      merged.untimed = ((walks.map (·.outcome)).foldl Outcome.merge outcome).untimed ∧
      next.units = (Call.executeMany places).treeAfter config session.units ∧
      next.records = session.records ++ walks.flatMap (·.records) := by
  induction places generalizing session outcome with
  | nil =>
      refine ⟨outcome, session, run_pure session outcome, rfl, ?_, (List.append_nil _).symm⟩
      rw [Call.treeAfter_of_unreached]
      simp [Call.Reaches]
  | cons place rest ih =>
      obtain ⟨first, next, ran, still, same, placed, reported⟩ := knows.run_execute place
      obtain ⟨merged, last, ranLater, sameLater, units, records⟩ := ih still (outcome.merge first)
      refine ⟨merged, last, ?_, ?_, ?_, ?_⟩
      · rw [executeOnto, run_bind_of_ok session ran, ranLater]
      · rw [sameLater, placed, Policy.walksAt, List.map_cons, List.foldl_cons, ← same]
        exact untimed_foldl_merge _ rfl
      · rw [units, placed, Policy.unit_walkUnit, ← Call.treeAfter_execute,
          Call.treeAfter_executeMany]
      · rw [records, placed, reported, List.append_assoc]
        rfl

end Knows

end Session

end CompilePolicy

import CompilePolicy.Proofs.Engine.Rerun

/-!
# Fewer rules

A configuration can ask for fewer rules, and an engine can leave some out. The rules do
not meddle with each other, and what a walk makes of the tree does not depend on them.
So a run with fewer rules gives what a run with all of them gives, without the
diagnostics and the ids of those that are left out.
-/

namespace CompilePolicy

/-- A configuration with other answers to what is checked, and the same in the rest. -/
def Configuration.asking (config : Configuration)
    (disableDynamicCompile limitExtensions dynamicTypingAllowed : Bool) : Configuration :=
  { config with disableDynamicCompile, limitExtensions, dynamicTypingAllowed }

/-- A configuration that asks for all checks, and is the same in the rest. -/
def Configuration.askingAll (config : Configuration) : Configuration :=
  config.asking true true false

namespace Policy

/-- The rule of some id runs: it is not left out, and the configuration asks for it. -/
def Runs (config : Configuration) (skipped : List String) (id : String) : Prop :=
  id ∉ skipped ∧ ∃ rule ∈ builtInRules, rule.id = id ∧ rule.applies config = true

instance (config : Configuration) (skipped : List String) (id : String) :
    Decidable (Runs config skipped id) :=
  inferInstanceAs (Decidable (_ ∧ _))

theorem id_injective {first second : Check} (same : first.id = second.id) : first = second := by
  revert same
  cases first <;> cases second <;> decide

theorem mem_builtInRules {rule : Rule} :
    rule ∈ builtInRules ↔ ∃ check : Check, check.rule = rule := by
  have listed : builtInRules =
      [.classMode, .methodMode, .classExtensions, .methodExtensions, .fieldType, .methodType,
        .parameterType].map Check.rule := rfl
  rw [listed, List.mem_map]
  constructor
  · rintro ⟨check, -, same⟩
    exact ⟨check, same⟩
  · rintro ⟨check, same⟩
    exact ⟨check, by cases check <;> simp, same⟩

/-- The rule of a check runs if the check is asked for and kept. -/
theorem runs_iff {config : Configuration} {skipped : List String} {check : Check} :
    Runs config skipped check.id ↔ check.isAsked config = true ∧ check.id ∉ skipped := by
  constructor
  · rintro ⟨kept, rule, listed, same, applies⟩
    obtain ⟨other, rfl⟩ := mem_builtInRules.mp listed
    rw [Check.rule_id] at same
    rw [Check.rule_applies, id_injective same] at applies
    exact ⟨applies, kept⟩
  · rintro ⟨asked, kept⟩
    refine ⟨kept, check.rule, mem_builtInRules.mpr ⟨check, rfl⟩, check.rule_id, ?_⟩
    rw [Check.rule_applies, asked]

/-! ## Reports of fewer checks -/

section

variable (config : Configuration) (mode extensions dynamic : Bool) (skipped : List String)

theorem isAsked_askingAll (check : Check) : check.isAsked config.askingAll = true := by
  cases check <;> rfl

/-- Whether a check fails at a node does not depend on which checks are asked for. -/
theorem fails_asking (className : String) (node : Node) (check : Check) :
    check.Fails (config.asking mode extensions dynamic) className node ↔
      check.Fails config className node := by
  cases check <;> rfl

theorem report_asking (unitName className : String) (node : Node) (check : Check) :
    check.report (config.asking mode extensions dynamic) unitName className node =
      check.report config unitName className node := by
  cases check <;> rfl

/-- A check is violated if it is violated where all checks are made, and its rule runs. -/
theorem isViolated_asking (className : String) (node : Node) (check : Check) :
    check.IsViolated (config.asking mode extensions dynamic) skipped className node ↔
      Runs (config.asking mode extensions dynamic) skipped check.id ∧
        check.IsViolated config.askingAll [] className node := by
  constructor
  · rintro ⟨fits, asked, kept, fails⟩
    rw [fails_asking, ← fails_asking config true true false] at fails
    exact ⟨runs_iff.mpr ⟨asked, kept⟩, fits, isAsked_askingAll config check,
      List.not_mem_nil, fails⟩
  · rintro ⟨runs, fits, -, -, fails⟩
    obtain ⟨asked, kept⟩ := runs_iff.mp runs
    rw [Configuration.askingAll, fails_asking] at fails
    exact ⟨fits, asked, kept, (fails_asking ..).mpr fails⟩

theorem nodeReports_asking (unitName className : String) (node : Node) :
    nodeReports (config.asking mode extensions dynamic) skipped unitName className node =
      (nodeReports config.askingAll [] unitName className node).filter fun diagnostic =>
        Runs (config.asking mode extensions dynamic) skipped diagnostic.ruleId := by
  rw [nodeReports, nodeReports, violations, violations, List.filter_map, List.filter_filter]
  have made : Check.all.filter
        (·.IsViolated (config.asking mode extensions dynamic) skipped className node) =
      Check.all.filter fun check =>
        decide (Runs (config.asking mode extensions dynamic) skipped check.id) &&
          decide (check.IsViolated config.askingAll [] className node) := by
    apply List.filter_congr
    intro check _
    rw [← Bool.decide_and, decide_eq_decide]
    exact isViolated_asking config mode extensions dynamic skipped className node check
  rw [made]
  apply List.map_congr_left
  intro check _
  rw [Configuration.askingAll, report_asking, report_asking]

theorem classReports_asking (unitName : String) (decl : ClassDecl) :
    classReports (config.asking mode extensions dynamic) skipped unitName decl =
      (classReports config.askingAll [] unitName decl).filter fun diagnostic =>
        Runs (config.asking mode extensions dynamic) skipped diagnostic.ruleId := by
  rw [classReports_eq, classReports_eq, List.filter_flatMap]
  congr 1
  funext node
  exact nodeReports_asking config mode extensions dynamic skipped unitName decl.name node

/-- The rules that run are those among all rules that are asked for and kept. -/
theorem ids_asking :
    (Check.all.filter fun check =>
        check.isAsked (config.asking mode extensions dynamic) ∧ check.id ∉ skipped).map (·.id) =
      ((Check.all.filter fun check =>
        check.isAsked config.askingAll ∧ check.id ∉ ([] : List String)).map (·.id)).filter fun id =>
          Runs (config.asking mode extensions dynamic) skipped id := by
  rw [List.filter_map, List.filter_filter]
  congr 1
  apply List.filter_congr
  intro check _
  simp [isAsked_askingAll, runs_iff]

end

end Policy

/-! ## Outcomes of fewer checks -/

/-- An outcome without what belongs to ids that are not kept. -/
def Outcome.keeping (keep : String → Bool) (outcome : Outcome) : Outcome :=
  { outcome with
    diagnostics := outcome.diagnostics.filter (keep ·.ruleId)
    rulesRun := outcome.rulesRun.filter keep }

theorem Outcome.keeping_merge (keep : String → Bool) (first second : Outcome) :
    (first.merge second).keeping keep = (first.keeping keep).merge (second.keeping keep) := by
  simp [keeping, merge, filter_addMissing]

theorem Outcome.keeping_foldl_merge (keep : String → Bool) (outcomes : List Outcome)
    (first : Outcome) :
    (outcomes.foldl merge first).keeping keep =
      (outcomes.map (keeping keep)).foldl merge (first.keeping keep) := by
  induction outcomes generalizing first with
  | nil => rfl
  | cons outcome rest ih => rw [List.foldl_cons, ih, keeping_merge, List.map_cons, List.foldl_cons]

namespace Policy

variable (config : Configuration) (mode extensions dynamic : Bool) (skipped : List String)

theorem outcome_asking (unit : CompilationUnit) :
    outcome (config.asking mode extensions dynamic) skipped unit =
      (outcome config.askingAll [] unit).keeping fun id =>
        Runs (config.asking mode extensions dynamic) skipped id := by
  by_cases skips : IsSkipped config unit
  · have skips' : ∀ mode extensions dynamic,
        IsSkipped (config.asking mode extensions dynamic) unit := fun _ _ _ => skips
    rw [outcome, outcome, if_pos (skips' _ _ _), Configuration.askingAll, if_pos (skips' _ _ _)]
    rfl
  · have walked : ∀ mode extensions dynamic,
        ¬IsSkipped (config.asking mode extensions dynamic) unit := fun _ _ _ => skips
    rw [outcome, outcome, if_neg (walked _ _ _), Configuration.askingAll,
      if_neg (walked _ _ _), ← Configuration.askingAll, ids_asking]
    simp only [classReports_asking, Outcome.keeping, List.filter_flatMap]
    rfl

theorem outcomesAt_asking (units : List CompilationUnit) (places : List Nat) :
    outcomesAt (config.asking mode extensions dynamic) skipped units places =
      (outcomesAt config.askingAll [] units places).map
        (Outcome.keeping fun id => Runs (config.asking mode extensions dynamic) skipped id) := by
  induction places generalizing units with
  | nil => rfl
  | cons place rest ih =>
      rw [outcomesAt, outcomesAt, List.map_cons, ← ih, outcome_asking]
      rfl

theorem totalAt_asking (units : List CompilationUnit) (places : List Nat) :
    totalAt (config.asking mode extensions dynamic) skipped units places =
      (totalAt config.askingAll [] units places).keeping fun id =>
        Runs (config.asking mode extensions dynamic) skipped id := by
  rw [totalAt, totalAt, outcomesAt_asking, Outcome.keeping_foldl_merge]
  rfl

/-! ## The rules that run -/

theorem rulesRun_askingAll {unit : CompilationUnit} (walked : ¬IsSkipped config unit) :
    (outcome config.askingAll [] unit).rulesRun = Registry.builtIn.ids := by
  have all : (Check.all.filter fun check =>
      check.isAsked config.askingAll ∧ check.id ∉ ([] : List String)) = Check.all := by
    rw [List.filter_eq_self]
    intro check _
    simp [isAsked_askingAll]
  have walked' : ¬IsSkipped config.askingAll unit := walked
  rw [outcome, if_neg walked', all, Registry.ids, sorted_builtIn, List.map_map]
  simp [Function.comp_def]

/-- Walks with all rules run all of them, once some unit is walked. -/
theorem rulesRun_foldl_askingAll (units : List CompilationUnit) {first : Outcome}
    (start : first.rulesRun = [] ∨ first.rulesRun = Registry.builtIn.ids) :
    ((units.map (outcome config.askingAll [])).foldl Outcome.merge first).rulesRun =
      if first.rulesRun = [] ∧ walked config units = [] then [] else Registry.builtIn.ids := by
  have distinct : Registry.builtIn.ids.Nodup := by decide
  have each : ∀ unit, (outcome config.askingAll [] unit).rulesRun =
      if IsSkipped config unit then [] else Registry.builtIn.ids := by
    intro unit
    split
    · rename_i skips
      have skips' : IsSkipped config.askingAll unit := skips
      rw [outcome, if_pos skips']
    · rename_i walks
      exact rulesRun_askingAll config walks
  rw [rulesRun_foldl_merge, List.flatMap_map, flatMap_eq_flatMap_walked each,
    addMissing_flatMap_const distinct start]

end Policy

/-! ## Runs of fewer rules -/

/-- One engine runs with all checks asked for and no rules left out, and another on the
same tree with any checks asked for and any rules left out. The second gives what the
first gives, without the diagnostics and the ids of rules that do not run; the first runs
all rules if it walks some unit; and both leave the same tree. -/
theorem fewer_rules_project (session : Session) (config : Configuration)
    (mode extensions dynamic : Bool) (skipped : List String) (places : List Nat) :
    let fewer := config.asking mode extensions dynamic
    let begun (config : Configuration) (skipped : List String) : Session :=
      { session with registry := .builtIn, engine := { configuration := some config, skipped } }
    ∃ all afterAll some afterSome,
      (begun config.askingAll []).run (Session.executeMany places) = (.ok all, afterAll) ∧
      (begun fewer skipped).run (Session.executeMany places) = (.ok some, afterSome) ∧
      some.untimed =
        { all.untimed with
          diagnostics := all.diagnostics.filter (Policy.Runs fewer skipped ·.ruleId)
          rulesRun := all.rulesRun.filter (Policy.Runs fewer skipped ·) } ∧
      all.rulesRun =
        (if Policy.walked config (places.map (session.units.getD · {})) = [] then []
          else Registry.builtIn.ids) ∧
      afterSome.units = afterAll.units := by
  intro fewer begun
  have ready : ∀ config skipped, Session.IsReady config skipped (begun config skipped) :=
    fun _ _ => ⟨rfl, rfl, rfl, by simp [begun]⟩
  obtain ⟨all, afterAll, ranAll, -, sameAll, treeAll⟩ :=
    (ready config.askingAll []).run_places places
  obtain ⟨some, afterSome, ranSome, -, sameSome, treeSome⟩ :=
    (ready fewer skipped).run_places places
  refine ⟨all, afterAll, some, afterSome, ranAll, ranSome, ?_, ?_, ?_⟩
  · let keep (id : String) : Bool := Policy.Runs fewer skipped id
    calc
      some.untimed = ((Policy.totalAt config.askingAll [] session.units places).keeping
          keep).untimed := by
        rw [sameSome, Policy.totalAt_asking]
      _ = (Policy.totalAt config.askingAll [] session.units places).untimed.keeping keep := rfl
      _ = all.untimed.keeping keep := by rw [sameAll]
  · rw [Policy.reading_totalAt config.askingAll [] session.units Outcome.rulesRun (fun _ => rfl)
      sameAll, Policy.total, Policy.rulesRun_foldl_askingAll _ _ (.inl rfl)]
    simp
  · rw [treeSome, treeAll]
    rfl

end CompilePolicy

import CompilePolicy.Proofs.Engine.Projection
import CompilePolicy.Proofs.Engine.Run
import CompilePolicy.Proofs.Rule.Attribution
import CompilePolicy.Proofs.Rule.Listing

/-!
# Failing rules

A run makes checks one after another: each rule looks at each node of its scope. A check
that fails is noted and reported, and the next one is made. So what a rule gives does not
depend on the other rules, whether they fail or not, and a run without some custom rules
gives what the run with them gives, without what their checks gave. Whose diagnostic it is
goes by the check that gave it; the diagnostic itself may name any rule.
-/

namespace CompilePolicy

/-! ## The checks of a run -/

/-- A check that is made: a rule looks at a node of a class. -/
structure Attempt where
  unitName : String
  owner : ClassDecl
  node : Node
  rule : Rule

namespace Attempt

variable (config : Configuration) (attempt : Attempt)

/-- What the check gives. -/
def result : Except RuleFailure (List Diagnostic) :=
  checkRule config attempt.unitName attempt.owner attempt.node attempt.rule

/-- The diagnostics that the check gives, with the unit filled in. There are none if it
fails. -/
def given : List Diagnostic :=
  match attempt.rule.check config attempt.node attempt.owner with
  | .ok given => given.map fun diagnostic => { diagnostic with unit := attempt.unitName }
  | .error _ => []

/-- The failure of the check, if it fails. -/
def failure? : Option RuleFailure :=
  match attempt.rule.check config attempt.node attempt.owner with
  | .ok _ => none
  | .error reason => some ⟨attempt.rule.id, attempt.owner.name, reason⟩

/-- A check gives its diagnostics or its failure. -/
theorem result_cases :
    (attempt.result config = .ok (attempt.given config) ∧ attempt.failure? config = none) ∨
    ∃ failure, attempt.result config = .error failure ∧ attempt.given config = [] ∧
      attempt.failure? config = some failure ∧ failure.ruleId = attempt.rule.id := by
  unfold result given failure? checkRule
  cases attempt.rule.check config attempt.node attempt.owner with
  | ok given => exact .inl ⟨rfl, rfl⟩
  | error reason => exact .inr ⟨_, rfl, rfl, rfl, rfl⟩

variable {config} {attempt}

/-- What a check gives is what its rule gives at the node, with the unit filled in. -/
theorem mem_given {diagnostic : Diagnostic} (listed : diagnostic ∈ attempt.given config) :
    ∃ given, attempt.rule.check config attempt.node attempt.owner = .ok given ∧
      ∃ own ∈ given, diagnostic = { own with unit := attempt.unitName } := by
  unfold given at listed
  cases found : attempt.rule.check config attempt.node attempt.owner with
  | ok given =>
      rw [found] at listed
      obtain ⟨own, isOwn, same⟩ := List.mem_map.mp listed
      exact ⟨given, rfl, own, isOwn, same.symm⟩
  | error reason =>
      rw [found] at listed
      cases listed

theorem ruleId_of_failure? {failure : RuleFailure}
    (fails : attempt.failure? config = some failure) : failure.ruleId = attempt.rule.id := by
  rcases attempt.result_cases config with ⟨-, fine⟩ | ⟨other, -, -, otherFails, own⟩
  · rw [fine] at fails
    cases fails
  · rw [otherFails] at fails
    cases fails
    exact own

end Attempt

namespace Policy

/-- The checks that rules make in a unit: of the classes that are not exempt, as they are
once they are marked. -/
def unitAttempts (config : Configuration) (rules : List Rule) (unit : CompilationUnit) :
    List Attempt :=
  (unit.classes.filter (¬IsExempt config ·)).flatMap fun decl =>
    (marked config decl).nodes.flatMap fun node =>
      (rules.filter (·.scope = node.scope)).map (⟨unit.name, marked config decl, node, ·⟩)

/-- The checks that rules make in units, of which some may be skipped. -/
def attempts (config : Configuration) (rules : List Rule) (units : List CompilationUnit) :
    List Attempt :=
  (walked config units).flatMap (unitAttempts config rules)

/-- The failures of rules in units. -/
def failures (config : Configuration) (rules : List Rule) (units : List CompilationUnit) :
    List RuleFailure :=
  (attempts config rules units).filterMap (·.failure? config)

section

variable {config : Configuration}

theorem unitResults_of_inactive (inactive : config.enforcementActive = false)
    (rules : RuleTable) (unit : CompilationUnit) : unitResults config rules unit = [] := by
  simp [unitResults, checkClass, inactive]

theorem unitResults_of_active (active : config.enforcementActive = true)
    (rules : RuleTable) (unit : CompilationUnit) :
    unitResults config rules unit =
      (unitAttempts config rules.rules unit).map (·.result config) := by
  simp only [unitResults, unitAttempts, checkClass, active, if_true, List.map_flatMap,
    List.map_map]
  rfl

theorem reported_map_result (made : List Attempt) :
    reported (made.map (·.result config)) = made.flatMap (·.given config) := by
  rw [reported, List.flatMap_map]
  congr 1
  funext attempt
  rcases attempt.result_cases config with ⟨gives, -⟩ | ⟨_, gives, none, -⟩
  · simp [gives]
  · simp [gives, none]

theorem failed_map_result (made : List Attempt) :
    failed (made.map (·.result config)) = made.filterMap (·.failure? config) := by
  rw [failed, List.filterMap_map]
  congr 1
  funext attempt
  rcases attempt.result_cases config with ⟨gives, fine⟩ | ⟨_, gives, -, fails, -⟩
  · simp [gives, fine]
  · simp [gives, fails]

theorem reports_eq (active : config.enforcementActive = true) (rules : RuleTable)
    (units : List CompilationUnit) :
    (attempts config rules.rules units).flatMap (·.given config) =
      (walked config units).flatMap fun unit => reported (unitResults config rules unit) := by
  simp only [unitResults_of_active active, reported_map_result]
  rw [attempts, List.flatMap_assoc]

theorem failures_eq (active : config.enforcementActive = true) (rules : RuleTable)
    (units : List CompilationUnit) :
    failures config rules.rules units =
      (walked config units).flatMap fun unit => failed (unitResults config rules unit) := by
  simp only [unitResults_of_active active, failed_map_result]
  rw [failures, attempts, List.filterMap_flatMap]

end

end Policy

/-! ## Leaving out ids -/

/-- An outcome but for its diagnostics, without some ids of rules. -/
def Outcome.leavingOut (ids : List String) (outcome : Outcome) : Outcome :=
  { outcome with
    diagnostics := []
    rulesRun := outcome.rulesRun.filter (· ∉ ids)
    rulesFailed := outcome.rulesFailed.filter (· ∉ ids) }

/-- A table without the rules of some ids. -/
def RuleTable.leavingOut (ids : List String) (rules : RuleTable) : RuleTable :=
  ⟨rules.rules.filter (·.id ∉ ids)⟩

theorem Outcome.leavingOut_foldl_merge (ids : List String) (outcomes : List Outcome)
    (first : Outcome) :
    (outcomes.foldl merge first).leavingOut ids =
      (outcomes.map (leavingOut ids)).foldl merge (first.leavingOut ids) := by
  induction outcomes generalizing first with
  | nil => rfl
  | cons outcome rest ih =>
      have step : (first.merge outcome).leavingOut ids =
          (first.leavingOut ids).merge (outcome.leavingOut ids) := by
        simp [leavingOut, merge, filter_addMissing]
      rw [List.foldl_cons, ih, step, List.map_cons, List.foldl_cons]

theorem Outcome.leavingOut_nil (outcome : Outcome) :
    outcome.leavingOut [] = { outcome with diagnostics := [] } := by
  simp [leavingOut]

/-- An outcome that leaves out nothing but its diagnostics is determined by them. -/
theorem Outcome.eq_of_leavingOut {ids : List String} {other outcome : Outcome}
    (same : other.leavingOut [] = outcome.leavingOut ids) :
    other = { outcome with
      diagnostics := other.diagnostics
      rulesRun := outcome.rulesRun.filter (· ∉ ids)
      rulesFailed := outcome.rulesFailed.filter (· ∉ ids) } := by
  rw [leavingOut_nil] at same
  exact congrArg ({ · with diagnostics := other.diagnostics } : Outcome → Outcome) same

namespace Policy

variable {config : Configuration} {ids : List String}

theorem unitAttempts_leavingOut (rules : List Rule) (unit : CompilationUnit) :
    unitAttempts config (rules.filter (·.id ∉ ids)) unit =
      (unitAttempts config rules unit).filter (·.rule.id ∉ ids) := by
  simp only [unitAttempts, List.filter_flatMap, List.filter_map, List.filter_filter]
  congr 1
  funext decl
  congr 1
  funext node
  congr 1
  apply List.filter_congr
  intro rule _
  exact Bool.and_comm ..

theorem failed_leavingOut (made : List Attempt) :
    (failed ((made.filter (·.rule.id ∉ ids)).map (·.result config))).map (·.ruleId) =
      ((failed (made.map (·.result config))).map (·.ruleId)).filter (· ∉ ids) := by
  rw [failed_map_result, failed_map_result]
  induction made with
  | nil => rfl
  | cons attempt rest ih =>
      rcases attempt.result_cases config with ⟨-, fine⟩ | ⟨failure, -, -, fails, own⟩
      · by_cases left : attempt.rule.id ∈ ids
        · simpa [left, fine] using ih
        · simpa [left, fine] using ih
      · by_cases left : attempt.rule.id ∈ ids
        · simpa [left, fails, own] using ih
        · simpa [left, fails, own] using ih

theorem attempts_leavingOut (rules : RuleTable) (units : List CompilationUnit) :
    attempts config (rules.leavingOut ids).rules units =
      (attempts config rules.rules units).filter (·.rule.id ∉ ids) := by
  rw [attempts, attempts, List.filter_flatMap]
  congr 1
  funext unit
  exact unitAttempts_leavingOut rules.rules unit

/-- If rules attribute their diagnostics, what checks of some ids gave is what names them. -/
theorem given_leavingOut {made : List Attempt}
    (attributes : ∀ attempt ∈ made, attempt.rule.Attributes) :
    (made.filter (·.rule.id ∉ ids)).flatMap (·.given config) =
      (made.flatMap (·.given config)).filter (·.ruleId ∉ ids) := by
  induction made with
  | nil => rfl
  | cons attempt rest ih =>
      rw [List.forall_mem_cons] at attributes
      have own : ∀ diagnostic ∈ attempt.given config, diagnostic.ruleId = attempt.rule.id := by
        intro diagnostic listed
        obtain ⟨given, found, own, isOwn, rfl⟩ := Attempt.mem_given listed
        exact (attributes.1 _ _ _ _ found own isOwn).1
      have same : (attempt.given config).filter (·.ruleId ∉ ids) =
          (attempt.given config).filter fun _ => attempt.rule.id ∉ ids :=
        List.filter_congr fun diagnostic listed => by rw [own diagnostic listed]
      rw [List.flatMap_cons, List.filter_append, same, ← ih attributes.2]
      by_cases left : attempt.rule.id ∈ ids <;> simp [left]

/-- A walk without the rules of some ids gives the same but for its diagnostics, without
these ids. -/
theorem outcome_leavingOut (rules : RuleTable) (unit : CompilationUnit) :
    (walkUnit config (rules.leavingOut ids) unit).outcome.leavingOut [] =
      (walkUnit config rules unit).outcome.leavingOut ids := by
  rw [Outcome.leavingOut_nil, outcome_walkUnit, outcome_walkUnit]
  by_cases skips : IsSkipped config unit
  · rw [if_pos skips, if_pos skips]
    rfl
  · have run : activeIds config (rules.leavingOut ids) =
        (activeIds config rules).filter (· ∉ ids) := by
      unfold activeIds RuleTable.ids RuleTable.leavingOut
      split
      · rw [List.filter_map]
        rfl
      · rfl
    rw [if_neg skips, if_neg skips, run]
    cases active : config.enforcementActive with
    | false =>
        simp only [unitResults_of_inactive active, Outcome.leavingOut]
        rfl
    | true =>
        have made : unitAttempts config (rules.leavingOut ids).rules unit = _ :=
          unitAttempts_leavingOut rules.rules unit
        simp only [unitResults_of_active active, made, failed_leavingOut, Outcome.leavingOut,
          filter_addMissing, List.filter_nil]

end Policy

/-! ## Built-in rules -/

namespace Registry

/-- The built-in rules are not touched by rules with other ids. -/
theorem eq_rule_of_mem_sorted {calls : List Registration}
    (custom : ∀ call ∈ calls, call.id ∉ builtIn.ids) {rule : Rule}
    (listed : rule ∈ (builtIn.handInAll calls).sorted) (own : rule.id ∈ builtIn.ids) :
    ∃ check : Policy.Check, rule = check.rule := by
  have kept : ∀ id ∈ builtIn.ids, decide (id ∈ builtIn.ids) = true :=
    fun _ known => decide_eq_true known
  have none : calls.filter (fun call => decide (call.id ∈ builtIn.ids)) = [] := by
    rw [List.filter_eq_nil_iff]
    intro call handed
    simpa using custom call handed
  have alone := sorted_handInAll_filter kept calls
  rw [none] at alone
  have builtInRule : rule ∈ builtIn.sorted := by
    change rule ∈ (builtIn.handInAll []).sorted
    rw [alone]
    exact List.mem_filter.mpr ⟨listed, decide_eq_true own⟩
  rw [Policy.sorted_builtIn, List.mem_map] at builtInRule
  obtain ⟨check, -, rfl⟩ := builtInRule
  exact ⟨check, rfl⟩

/-- Among the rules that run, those of some ids are missing if they are not handed in. -/
theorem activeRules_handInAll_filter {ids : List String} (custom : ∀ id ∈ ids, id ∉ builtIn.ids)
    (calls : List Registration) (config : Configuration) (skipped : List String) :
    (builtIn.handInAll (calls.filter (·.id ∉ ids))).activeRules config skipped =
      ((builtIn.handInAll calls).activeRules config skipped).leavingOut ids := by
  have kept : ∀ id ∈ builtIn.ids, decide (id ∉ ids) = true :=
    fun id own => decide_eq_true fun listed => custom id listed own
  rw [activeRules, sorted_handInAll_filter kept, activeRules, RuleTable.leavingOut,
    List.filter_filter, List.filter_filter]
  congr 1
  apply List.filter_congr
  intro rule _
  exact Bool.and_comm ..

end Registry

namespace Policy

/-- Built-in rules do not fail. -/
theorem failure?_rule (config : Configuration) {attempt : Attempt} {check : Check}
    (made : attempt.rule = check.rule) : attempt.failure? config = none := by
  have fine := checkRule_rule config attempt.unitName attempt.owner attempt.node check
  rcases attempt.result_cases config with ⟨-, none⟩ | ⟨_, gives, -⟩
  · exact none
  · rw [Attempt.result, made, fine] at gives
    cases gives

theorem rule_of_mem_attempts {config : Configuration} {rules : List Rule}
    {units : List CompilationUnit} {attempt : Attempt}
    (listed : attempt ∈ attempts config rules units) : attempt.rule ∈ rules := by
  simp only [attempts, unitAttempts, List.mem_flatMap, List.mem_map, List.mem_filter] at listed
  obtain ⟨_, _, _, _, _, _, rule, ⟨member, _⟩, rfl⟩ := listed
  exact member

/-- Every rule that fails is one that runs, and it has failed at a node that it visits. -/
theorem mem_failures {config : Configuration} {rules : List Rule} {units : List CompilationUnit}
    {failure : RuleFailure} (listed : failure ∈ failures config rules units) :
    ∃ attempt ∈ attempts config rules units, attempt.failure? config = some failure ∧
      attempt.rule.id = failure.ruleId := by
  obtain ⟨attempt, made, fails⟩ := List.mem_filterMap.mp listed
  exact ⟨attempt, made, fails, (Attempt.ruleId_of_failure? fails).symm⟩

/-- Built-in rules do not fail, whatever is registered beside them. -/
theorem not_mem_builtIn_of_mem_failures {config : Configuration} {skipped : List String}
    {calls : List Registration} {units : List CompilationUnit} {failure : RuleFailure}
    (custom : ∀ call ∈ calls, call.id ∉ Registry.builtIn.ids)
    (listed : failure ∈ failures config
      ((Registry.builtIn.handInAll calls).activeRules config skipped).rules units) :
    failure.ruleId ∉ Registry.builtIn.ids := by
  obtain ⟨attempt, made, fails, named⟩ := mem_failures listed
  have member := (List.mem_filter.mp (rule_of_mem_attempts made)).1
  rw [← named]
  intro own
  obtain ⟨check, isBuiltIn⟩ := Registry.eq_rule_of_mem_sorted custom member own
  rw [failure?_rule config isBuiltIn] at fails
  cases fails

end Policy

/-! ## Runs with failing rules -/

section

variable {config : Configuration} {rules : RuleTable} (units : List CompilationUnit)
  (places : List Nat)

/-- The diagnostics of a run are those that its checks gave. -/
theorem Policy.diagnostics_walksAt (active : config.enforcementActive = true) :
    (((walksAt config rules units places).map (·.outcome)).foldl Outcome.merge {}).diagnostics =
      (attempts config rules.rules (places.map (units.getD · {}))).flatMap (·.given config) := by
  have each : ∀ unit, (walkUnit config rules unit).outcome.diagnostics =
      if IsSkipped config unit then [] else reported (unitResults config rules unit) := by
    intro unit
    rw [outcome_walkUnit]
    split <;> rfl
  have appends : ∀ first second : Outcome, (first.merge second).diagnostics =
      first.diagnostics ++ second.diagnostics := fun _ _ => rfl
  rw [foldl_merge_append appends, List.nil_append, List.flatMap_map,
    flatMap_walksAt config rules each, reports_eq active]
  intro unit
  rw [unitResults_unitAfter]

/-- A run without the rules of some ids gives the same but for its diagnostics, without
these ids. -/
theorem Policy.leavingOut_walksAt {ids : List String} :
    (((walksAt config (rules.leavingOut ids) units places).map (·.outcome)).foldl
      Outcome.merge {}).leavingOut [] =
      (((walksAt config rules units places).map (·.outcome)).foldl Outcome.merge {}).leavingOut
        ids := by
  have each : (walksAt config (rules.leavingOut ids) units places).map
      (·.outcome.leavingOut []) =
        (walksAt config rules units places).map (·.outcome.leavingOut ids) :=
    map_walksAt_congr config rules (outcome_leavingOut rules) units places
  rw [Outcome.leavingOut_foldl_merge, Outcome.leavingOut_foldl_merge, List.map_map, List.map_map]
  exact congrArg (List.foldl Outcome.merge {}) each

/-- The rules that failed in a run are those of its failures, once each. -/
theorem Policy.rulesFailed_walksAt (active : config.enforcementActive = true) :
    (((walksAt config rules units places).map (·.outcome)).foldl Outcome.merge {}).rulesFailed =
      ((failures config rules.rules (places.map (units.getD · {}))).map (·.ruleId)).eraseDups := by
  have each : ∀ unit, (walkUnit config rules unit).outcome.rulesFailed =
      if IsSkipped config unit then []
      else addMissing [] ((failed (unitResults config rules unit)).map (·.ruleId)) := by
    intro unit
    rw [outcome_walkUnit]
    split <;> rfl
  rw [rulesFailed_foldl_merge, List.flatMap_map, flatMap_walksAt config rules each,
    addMissing_flatMap, addMissing_nil_left, failures_eq active, List.map_flatMap]
  intro unit
  rw [unitResults_unitAfter]

/-- The warnings of a run are those of its failures. -/
theorem Policy.warnings_walksAt (active : config.enforcementActive = true) :
    ((walksAt config rules units places).flatMap (·.records)).filter (·.level = .warning) =
      (failures config rules.rules (places.map (units.getD · {}))).map (·.record) := by
  rw [List.filter_flatMap, flatMap_walksAt config rules (warnings_walkUnit config rules),
    failures_eq active, List.map_flatMap]
  intro unit
  rw [unitResults_unitAfter]

end

/-- An engine runs over the units in some places, with custom rules registered beside the
built-in ones. It gives an outcome, whichever rules fail and wherever. Its diagnostics are
those that the checks gave, in the order in which the checks are made. The rules that
failed are those of the failures, once each and in the order of their first failures, and
each failure has one warning. Built-in rules are not among them. A run without some custom
rules, those that failed among others, gives what the other checks gave and the same
otherwise, but for the ids of these rules, and leaves the same tree. Where rules attribute
their diagnostics, these are the diagnostics that do not name the ids. -/
theorem failing_rules_are_isolated (session : Session) (config : Configuration)
    (skipped : List String) (places : List Nat) (calls : List Registration)
    (active : config.enforcementActive = true)
    (custom : ∀ call ∈ calls, call.id ∉ Registry.builtIn.ids) :
    let run (calls : List Registration) :=
      Session.run
        { session with
          registry := Registry.builtIn.handInAll calls
          engine := { configuration := some config, skipped } }
        (Session.executeMany places)
    let rules := ((Registry.builtIn.handInAll calls).activeRules config skipped).rules
    let attempts := Policy.attempts config rules (places.map (session.units.getD · {}))
    let failures := Policy.failures config rules (places.map (session.units.getD · {}))
    ∃ outcome after, run calls = (.ok outcome, after) ∧
      outcome.diagnostics = attempts.flatMap (·.given config) ∧
      outcome.rulesFailed = (failures.map (·.ruleId)).eraseDups ∧
      after.records.filter (·.level = .warning) =
        session.records.filter (·.level = .warning) ++ failures.map (·.record) ∧
      (∀ id ∈ outcome.rulesFailed, id ∉ Registry.builtIn.ids) ∧
      ∀ dropped : List String, (∀ id ∈ dropped, id ∉ Registry.builtIn.ids) →
        ∃ other last, run (calls.filter (·.id ∉ dropped)) = (.ok other, last) ∧
          other.untimed =
            { outcome.untimed with
              diagnostics :=
                (attempts.filter (·.rule.id ∉ dropped)).flatMap (·.given config)
              rulesRun := outcome.rulesRun.filter (· ∉ dropped)
              rulesFailed := outcome.rulesFailed.filter (· ∉ dropped) } ∧
          ((∀ rule ∈ rules, rule.Attributes) →
            other.diagnostics = outcome.diagnostics.filter (·.ruleId ∉ dropped)) ∧
          last.units = after.units := by
  intro run rules attempts failures
  have knows : ∀ calls, Session.Knows config
      ((Registry.builtIn.handInAll calls).activeRules config skipped)
      { session with
        registry := Registry.builtIn.handInAll calls
        engine := { configuration := some config, skipped } } :=
    fun _ => ⟨rfl, rfl⟩
  obtain ⟨outcome, after, ran, same, units, records⟩ := (knows calls).run_executeOnto {} places
  have gives : outcome.diagnostics = attempts.flatMap (·.given config) :=
    (congrArg Outcome.diagnostics same).trans
      (Policy.diagnostics_walksAt session.units places active)
  have failed : outcome.rulesFailed = (failures.map (·.ruleId)).eraseDups :=
    (congrArg Outcome.rulesFailed same).trans
      (Policy.rulesFailed_walksAt session.units places active)
  refine ⟨outcome, after, ran, gives, failed, ?_, ?_, ?_⟩
  · rw [records, List.filter_append, Policy.warnings_walksAt session.units places active]
  · intro id listed
    rw [failed, List.mem_eraseDups, List.mem_map] at listed
    obtain ⟨failure, listed, rfl⟩ := listed
    exact Policy.not_mem_builtIn_of_mem_failures custom listed
  · intro dropped others
    obtain ⟨other, last, ranOther, sameOther, unitsOther, -⟩ :=
      (knows (calls.filter (·.id ∉ dropped))).run_executeOnto {} places
    rw [Registry.activeRules_handInAll_filter others] at sameOther
    have givesOther : other.diagnostics =
        (attempts.filter (·.rule.id ∉ dropped)).flatMap (·.given config) := by
      rw [← Policy.attempts_leavingOut]
      exact (congrArg Outcome.diagnostics sameOther).trans
        (Policy.diagnostics_walksAt session.units places active)
    refine ⟨other, last, ranOther, ?_, ?_, unitsOther.trans units.symm⟩
    · have rest : other.untimed.leavingOut [] = outcome.untimed.leavingOut dropped := by
        rw [same, sameOther]
        exact congrArg Outcome.untimed (Policy.leavingOut_walksAt session.units places)
      rw [Outcome.eq_of_leavingOut rest, ← givesOther]
      rfl
    · intro attributes
      rw [givesOther, gives]
      exact Policy.given_leavingOut fun attempt made =>
        attributes _ (Policy.rule_of_mem_attempts made)

/-- A custom rule fails on every field. What `DEF_FIELD` and another custom rule report
there is the same with it and without it. -/
theorem failing_rules_are_isolated_at_raising_field_rule :
    let config : Configuration := { dynamicTypingAllowed := false }
    let raising : Registration :=
      ⟨"RAISES", "field", fun scope =>
        { id := "", scope, order := 15, check := fun _ _ _ => .error "broken" }⟩
    let counting : Registration :=
      ⟨"COUNTS", "field", fun scope =>
        { id := "", scope, order := 20
          check := fun _ node owner => .ok [.attributed "COUNTS" node owner "field"] }⟩
    let decl : ClassDecl := { name := "p.A", fields := [{ name := "x", isDynamic := true }] }
    let unit : CompilationUnit := { targetDirectory := some "out", classes := [decl] }
    let run (calls : List Registration) :=
      Session.run
        { units := [unit]
          registry := Registry.builtIn.handInAll calls
          engine := { configuration := some config } }
        (Session.executeMany [0])
    (config.enforcementActive = true ∧
      (∀ call ∈ [raising, counting], call.id ∉ Registry.builtIn.ids) ∧
      ∀ id ∈ ["RAISES"], id ∉ Registry.builtIn.ids) ∧
    ∃ outcome after other last, run [raising, counting] = (.ok outcome, after) ∧
      run [counting] = (.ok other, last) ∧ outcome.rulesFailed = ["RAISES"] ∧
      outcome.diagnostics.map (·.ruleId) = ["DEF_FIELD", "COUNTS"] ∧
      other.diagnostics = outcome.diagnostics.filter (·.ruleId ∉ ["RAISES"]) ∧
      last.units = after.units := by
  intro config raising counting decl unit run
  have active : config.enforcementActive = true := rfl
  have custom : ∀ call ∈ [raising, counting], call.id ∉ Registry.builtIn.ids := by decide
  have dropped : ∀ id ∈ ["RAISES"], id ∉ Registry.builtIn.ids := by decide
  obtain ⟨outcome, after, ran, -, failed, -, -, isolated⟩ :=
    failing_rules_are_isolated { units := [unit] } config [] [0] [raising, counting] active custom
  obtain ⟨other, last, ranOther, -, named, tree⟩ := isolated ["RAISES"] dropped
  have attributes : ∀ rule ∈
      ((Registry.builtIn.handInAll [raising, counting]).activeRules config []).rules,
      rule.Attributes := by
    intro rule runs
    rcases Registry.mem_of_mem_handInAll (Registry.mem_of_mem_activeRules runs) with
      builtIn | ⟨call, handed, made⟩
    · exact attributes_of_builtIn builtIn
    · rcases List.mem_pair.mp handed with rfl | rfl <;> cases made
      · exact fun _ _ _ _ found => nomatch found
      · refine Rule.attributes_of_create fun config node owner given found diagnostic listed =>
          ⟨"field", [], ?_⟩
        cases found
        rw [List.mem_singleton.mp listed]
        rfl
  have failures : ((Policy.failures config
      ((Registry.builtIn.handInAll [raising, counting]).activeRules config []).rules
      [unit]).map (·.ruleId)).eraseDups = ["RAISES"] := by
    decide
  have reported : (run [raising, counting]).1.toOption.map
      (fun outcome => outcome.diagnostics.map (·.ruleId)) = some ["DEF_FIELD", "COUNTS"] := by
    decide
  refine ⟨⟨active, custom, dropped⟩, outcome, after, other, last, ran, ranOther,
    failed.trans failures, ?_, named attributes, tree⟩
  have ran : run [raising, counting] = _ := ran
  rw [ran] at reported
  exact Option.some.inj reported

end CompilePolicy

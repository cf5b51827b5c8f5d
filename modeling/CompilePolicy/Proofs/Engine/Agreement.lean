import CompilePolicy.Proofs.Engine.Walk

/-!
# The walk follows the policy

The built-in rules, in listing order, are the checks of the policy. So the table
of the rules that run holds the checks that are asked for and kept, each rule
reports what its check reports, and none of them fails. The walk of a unit is
then what the policy makes of it.
-/

namespace CompilePolicy.Policy

open CompilePolicy.Document

/-! ## Rules and checks -/

/-- The rule that makes a check. -/
def Check.rule : Check → Rule
  | .classMode =>
    compileModeRule "DYNAMIC_COMPILE_CLASS" .ofClass 10
      "Dynamic Compilation is not allowed for this class."
  | .classExtensions => extensionRule "EXTENSION_LIMIT_CLASS" .ofClass 20
  | .fieldType => dynamicTypeRule "DEF_FIELD" .ofField "def is not allowed for variables."
  | .methodType => dynamicTypeRule "DEF_METHOD" .ofMethod "def is not allowed for methods."
  | .methodMode =>
    compileModeRule "DYNAMIC_COMPILE_METHOD" .ofMethod 20
      "Dynamic Compilation is not allowed for this method."
  | .methodExtensions => extensionRule "EXTENSION_LIMIT_METHOD" .ofMethod 30
  | .parameterType =>
    dynamicTypeRule "DEF_PARAMETER" .ofParameter "Dynamically typed parameters are not allowed."

/-- The built-in rules are listed in the order of the checks. -/
theorem sorted_builtIn : Registry.builtIn.sorted = Check.all.map Check.rule :=
  rfl

@[simp]
theorem Check.rule_id (check : Check) : check.rule.id = check.id := by
  cases check <;> rfl

@[simp]
theorem Check.rule_scope (check : Check) : check.rule.scope = check.scope := by
  cases check <;> rfl

@[simp]
theorem Check.rule_applies (config : Configuration) (check : Check) :
    check.rule.applies config = check.isAsked config := by
  cases check <;> rfl

/-- The rules that run are those of the checks that are asked for and kept. -/
theorem rules_activeRules (config : Configuration) (skipped : List String) :
    (Registry.builtIn.activeRules config skipped).rules =
      (Check.all.filter fun check => check.isAsked config ∧ check.id ∉ skipped).map Check.rule := by
  simp only [Registry.activeRules, sorted_builtIn, List.filter_map]
  congr 1
  apply List.filter_congr
  intro check _
  simp [Bool.and_comm]

/-- A configuration under which nothing is enforced asks for no check. -/
theorem isAsked_eq_false {config : Configuration} (inactive : config.enforcementActive = false)
    (check : Check) : check.isAsked config = false := by
  simp only [Configuration.enforcementActive, Bool.or_eq_false_iff, Bool.not_eq_false'] at inactive
  cases check <;> simp [Check.isAsked, inactive]

theorem activeIds_builtIn (config : Configuration) (skipped : List String) :
    activeIds config (Registry.builtIn.activeRules config skipped) =
      (Check.all.filter fun check => check.isAsked config ∧ check.id ∉ skipped).map (·.id) := by
  unfold activeIds
  split
  · rw [RuleTable.ids, rules_activeRules, List.map_map]
    simp [Function.comp_def]
  · rename_i inactive
    simp [isAsked_eq_false (by simpa using inactive)]

/-! ## Checks at nodes -/

section

variable (config : Configuration) (unitName : String) (owner : ClassDecl) (node : Node)

theorem checkRule_compileModeRule (id : String) (scope : Scope) (order : Int)
    (message : String) :
    checkRule config unitName owner node (compileModeRule id scope order message) =
      .ok (if ¬IsWhitelisted config owner.name ∧ OptsOut node.annotations then
        [{ message, subject := .node node, ruleId := id, owner := owner.name, unit := unitName }]
        else []) := by
  simp only [checkRule, compileModeRule]
  by_cases listed : IsWhitelisted config owner.name
  · rw [if_pos (isWhitelisted_eq_true_iff.mpr listed), if_neg (fun both => both.1 listed)]
    rfl
  · rw [if_neg (mt isWhitelisted_eq_true_iff.mp listed)]
    by_cases out : OptsOut node.annotations
    · rw [if_pos (optsOut_iff.mpr out), if_pos ⟨listed, out⟩]
      rfl
    · rw [if_neg (mt optsOut_iff.mp out), if_neg (fun both => out both.2)]
      rfl

theorem checkRule_extensionRule (id : String) (scope : Scope) (order : Int) :
    checkRule config unitName owner node (extensionRule id scope order) =
      .ok (if rejected config node.annotations ≠ [] then
        [{ message := "Compile Static extensions are limited to: " ++ config.extensionsText
           subject := .node node, ruleId := id, owner := owner.name, unit := unitName
           metadata := [("rejected", .strings (rejected config node.annotations))] }]
        else []) := by
  simp only [checkRule, extensionRule, disallowedExtensions_eq]
  cases rejected config node.annotations with
  | nil => rfl
  | cons first rest =>
      rw [if_pos (List.cons_ne_nil first rest)]
      rfl

theorem checkRule_dynamicTypeRule (id : String) (scope : Scope) (message : String) :
    checkRule config unitName owner node (dynamicTypeRule id scope message) =
      .ok (if node.isDynamic = true then
        [{ message, subject := .node node, ruleId := id, owner := owner.name, unit := unitName }]
        else []) := by
  simp only [checkRule, dynamicTypeRule]
  split <;> rfl

/-- A rule reports a node exactly when the condition of its check fails there, and it
never fails itself. -/
theorem checkRule_rule (check : Check) :
    checkRule config unitName owner node check.rule =
      .ok (if check.Fails config owner.name node then
        [check.report config unitName owner.name node] else []) := by
  cases check with
  | classMode => exact checkRule_compileModeRule config unitName owner node ..
  | classExtensions => exact checkRule_extensionRule config unitName owner node ..
  | fieldType => exact checkRule_dynamicTypeRule config unitName owner node ..
  | methodType => exact checkRule_dynamicTypeRule config unitName owner node ..
  | methodMode => exact checkRule_compileModeRule config unitName owner node ..
  | methodExtensions => exact checkRule_extensionRule config unitName owner node ..
  | parameterType => exact checkRule_dynamicTypeRule config unitName owner node ..

end

/-- What the rules of a node's scope give there. -/
theorem checkNode_builtIn (config : Configuration) (skipped : List String) (unitName : String)
    (owner : ClassDecl) (node : Node) :
    checkNode config (Registry.builtIn.activeRules config skipped) unitName owner node =
      (Check.all.filter fun check =>
        check.scope = node.scope ∧ check.isAsked config ∧ check.id ∉ skipped).map fun check =>
          .ok (if check.Fails config owner.name node then
            [check.report config unitName owner.name node] else []) := by
  rw [checkNode, RuleTable.forScope, rules_activeRules, List.filter_map, List.filter_filter,
    List.map_map]
  congr 1
  · funext check
    exact checkRule_rule config unitName owner node check
  · apply List.filter_congr
    intro check _
    simp

/-- Reports at a node are made by the checks that are violated there. -/
theorem reported_checkNode (config : Configuration) (skipped : List String) (unitName : String)
    (owner : ClassDecl) (node : Node) :
    reported (checkNode config (Registry.builtIn.activeRules config skipped) unitName owner node) =
      nodeReports config skipped unitName owner.name node := by
  rw [checkNode_builtIn, reported, List.flatMap_map, nodeReports, violations]
  induction Check.all with
  | nil => rfl
  | cons check rest ih =>
      simp only [List.filter_cons, decide_eq_true_eq, Check.isViolated_iff] at ih ⊢
      split <;> split <;> grind

theorem failed_checkNode (config : Configuration) (skipped : List String) (unitName : String)
    (owner : ClassDecl) (node : Node) :
    failed (checkNode config (Registry.builtIn.activeRules config skipped) unitName owner node) =
      [] := by
  rw [checkNode_builtIn, failed, List.filterMap_map, List.filterMap_eq_nil_iff]
  intro check _
  rfl

/-! ## Classes -/

/-- No check is violated where nothing is enforced. -/
theorem classReports_of_inactive {config : Configuration}
    (inactive : config.enforcementActive = false) (skipped : List String) (unitName : String)
    (decl : ClassDecl) : classReports config skipped unitName decl = [] := by
  have quiet : ∀ node, nodeReports config skipped unitName decl.name node = [] := by
    intro node
    rw [nodeReports, violations, List.map_eq_nil_iff, List.filter_eq_nil_iff]
    intro check _ violated
    simpa [isAsked_eq_false inactive] using (of_decide_eq_true violated).asked
  simp [classReports, quiet]

theorem classReports_eq (config : Configuration) (skipped : List String) (unitName : String)
    (decl : ClassDecl) :
    classReports config skipped unitName decl =
      decl.nodes.flatMap (nodeReports config skipped unitName decl.name) := by
  simp [ClassDecl.nodes, classReports, List.flatMap_map, List.flatMap_assoc]

theorem reported_checkClass (config : Configuration) (skipped : List String) (unitName : String)
    (decl : ClassDecl) :
    reported (checkClass config (Registry.builtIn.activeRules config skipped) unitName decl) =
      classReports config skipped unitName decl := by
  cases active : config.enforcementActive with
  | false =>
      rw [classReports_of_inactive active]
      simp [checkClass, active, reported]
  | true =>
      have nodewise := reported_checkNode config skipped unitName decl
      simp only [reported] at nodewise
      simp only [checkClass, active, if_true, reported, List.flatMap_assoc, nodewise,
        classReports_eq]

theorem failed_checkClass (config : Configuration) (skipped : List String) (unitName : String)
    (decl : ClassDecl) :
    failed (checkClass config (Registry.builtIn.activeRules config skipped) unitName decl) =
      [] := by
  unfold checkClass
  split
  · have nodewise := failed_checkNode config skipped unitName decl
    simp only [failed] at nodewise
    simp [failed, List.filterMap_flatMap, nodewise]
  · rfl

/-! ## Units -/

/-- What the rules of the policy give in a unit. -/
theorem reported_unitResults (config : Configuration) (skipped : List String)
    (unit : CompilationUnit) :
    reported (unitResults config (Registry.builtIn.activeRules config skipped) unit) =
      (unit.classes.filter (¬IsExempt config ·)).flatMap fun decl =>
        classReports config skipped unit.name (marked config decl) := by
  have classwise := reported_checkClass config skipped unit.name
  simp only [reported] at classwise
  simp only [unitResults, reported, List.flatMap_assoc, classwise]

theorem failed_unitResults (config : Configuration) (skipped : List String)
    (unit : CompilationUnit) :
    failed (unitResults config (Registry.builtIn.activeRules config skipped) unit) = [] := by
  have classwise := failed_checkClass config skipped unit.name
  simp only [failed] at classwise
  simp [unitResults, failed, List.filterMap_flatMap, classwise]

/-- The walk of a unit under the built-in rules is what the policy makes of the
unit. -/
theorem walkUnit_builtIn (config : Configuration) (skipped : List String)
    (unit : CompilationUnit) :
    let walk := walkUnit config (Registry.builtIn.activeRules config skipped) unit
    walk.outcome = outcome config skipped unit ∧ walk.unit = unitAfter config unit := by
  refine ⟨?_, unit_walkUnit config _ unit⟩
  rw [outcome_walkUnit, outcome, reported_unitResults, failed_unitResults, activeIds_builtIn]
  rfl

end CompilePolicy.Policy

import CompilePolicy.Proofs.Engine.Policy

/-!
# Walks under any rules

What a walk does with a unit, a class at a time, whatever the rules are. Which units and
classes are checked, which classes are marked and what the tree is afterwards does not
depend on the rules at all. The rules only say what is reported and which of them fail,
and they see each class as it is once it is marked.
-/

namespace CompilePolicy.Policy

open CompilePolicy.Journal

/-! ## Classes -/

theorem markedClass_eq (config : Configuration) (decl : ClassDecl) :
    markedClass config decl = marked config decl := by
  simp [markedClass, marked, attachMarker, markerFor, marker, choosesMode_iff]

@[simp]
theorem name_marked (config : Configuration) (decl : ClassDecl) :
    (marked config decl).name = decl.name := by
  unfold marked
  split <;> rfl

section

variable (config : Configuration) (rules : RuleTable) (unitName : String) (decl : ClassDecl)

/-- An exempt class is left as it is. -/
theorem visitClass_of_isExempt (exempt : IsExempt config decl) :
    ∃ exemption, visitClass config rules unitName decl = ⟨decl, decl, some exemption, []⟩ := by
  unfold visitClass
  cases why : exemption? config decl with
  | some exemption => exact ⟨exemption, rfl⟩
  | none => exact absurd exempt (exemption?_eq_none_iff.mp why)

/-- Any other class is marked and checked. -/
theorem visitClass_of_not_isExempt (free : ¬IsExempt config decl) :
    visitClass config rules unitName decl =
      ⟨decl, marked config decl, none,
        checkClass config rules unitName (marked config decl)⟩ := by
  unfold visitClass
  rw [exemption?_eq_none_iff.mpr free, markedClass_eq]

/-- A walk marks the classes that are not exempt. -/
theorem decl_visitClass :
    (visitClass config rules unitName decl).decl =
      if IsExempt config decl then decl else marked config decl := by
  by_cases exempt : IsExempt config decl
  · obtain ⟨exemption, visit⟩ := visitClass_of_isExempt config rules unitName decl exempt
    rw [visit, if_pos exempt]
  · rw [visitClass_of_not_isExempt config rules unitName decl exempt, if_neg exempt]

theorem name_visitClass : (visitClass config rules unitName decl).decl.name = decl.name := by
  rw [decl_visitClass]
  split <;> simp

theorem isChecked_visitClass :
    (visitClass config rules unitName decl).isChecked = decide (¬IsExempt config decl) := by
  by_cases exempt : IsExempt config decl
  · obtain ⟨exemption, visit⟩ := visitClass_of_isExempt config rules unitName decl exempt
    simp [visit, exempt, ClassVisit.isChecked]
  · simp [visitClass_of_not_isExempt config rules unitName decl exempt, exempt,
      ClassVisit.isChecked]

theorem isAnnotated_visitClass :
    (visitClass config rules unitName decl).isAnnotated =
      (decide (¬ChoosesMode decl) && decide (¬IsExempt config decl)) := by
  have chosen : choosesMode decl = decide (ChoosesMode decl) := by
    rw [Bool.eq_iff_iff, choosesMode_iff, decide_eq_true_iff]
  have before : (visitClass config rules unitName decl).before = decl := by
    unfold visitClass
    split <;> rfl
  rw [ClassVisit.isAnnotated, isChecked_visitClass, before, chosen, Bool.and_comm]
  simp

theorem results_visitClass :
    (visitClass config rules unitName decl).results =
      if IsExempt config decl then []
      else checkClass config rules unitName (marked config decl) := by
  by_cases exempt : IsExempt config decl
  · obtain ⟨exemption, visit⟩ := visitClass_of_isExempt config rules unitName decl exempt
    rw [visit, if_pos exempt]
  · rw [visitClass_of_not_isExempt config rules unitName decl exempt, if_neg exempt]

/-- Warnings are given of failures only. -/
theorem warnings_visitClass :
    (visitClass config rules unitName decl).records.filter (·.level = .warning) =
      (failed (visitClass config rules unitName decl).results).map (·.record) := by
  by_cases exempt : IsExempt config decl
  · obtain ⟨exemption, visit⟩ := visitClass_of_isExempt config rules unitName decl exempt
    rw [visit]
    cases exemption <;> rfl
  · rw [visitClass_of_not_isExempt config rules unitName decl exempt, ClassVisit.records,
      List.filter_eq_self]
    intro record listed
    obtain ⟨failure, -, rfl⟩ := List.mem_map.mp listed
    rfl

end

/-! ## Units -/

/-- What the rules give in the classes of a unit that are not exempt. -/
def unitResults (config : Configuration) (rules : RuleTable) (unit : CompilationUnit) :
    List (Except RuleFailure (List Diagnostic)) :=
  (unit.classes.filter (¬IsExempt config ·)).flatMap fun decl =>
    checkClass config rules unit.name (marked config decl)

section

variable (config : Configuration) (rules : RuleTable) (unit : CompilationUnit)

/-- The results of the visits, one class after another. -/
theorem flatMap_results_visitClass {α : Type}
    {of : List (Except RuleFailure (List Diagnostic)) → List α}
    (nil : of [] = []) (append : ∀ first second, of (first ++ second) = of first ++ of second) :
    (unit.classes.flatMap fun decl => of (visitClass config rules unit.name decl).results) =
      of (unitResults config rules unit) := by
  unfold unitResults
  induction unit.classes with
  | nil => exact nil.symm
  | cons decl rest ih =>
      rw [List.flatMap_cons, ih, results_visitClass]
      by_cases exempt : IsExempt config decl
      · simp [exempt, nil]
      · simp [exempt, append]

/-- What the walk of a unit gives. -/
theorem outcome_walkUnit :
    (walkUnit config rules unit).outcome =
      if IsSkipped config unit then { unitsSkipped := [unit.name] }
      else
        let checked := unit.classes.filter (¬IsExempt config ·)
        { unitsProcessed := [unit.name]
          classesExempt := (unit.classes.filter (IsExempt config ·)).map (·.name)
          classesChecked := checked.map (·.name)
          classesAnnotated := (checked.filter (¬ChoosesMode ·)).map (·.name)
          rulesRun := activeIds config rules
          diagnostics := reported (unitResults config rules unit)
          rulesFailed :=
            addMissing [] ((failed (unitResults config rules unit)).map (·.ruleId)) } := by
  unfold walkUnit
  cases reason : skipReason? config unit with
  | some reason => rw [if_pos (isSkipped_of_skipReason? reason)]
  | none =>
      have reports := @flatMap_results_visitClass config rules unit _ reported rfl
        fun _ _ => List.flatMap_append
      have failures := @flatMap_results_visitClass config rules unit _ failed rfl
        fun _ _ => List.filterMap_append
      have exempt : unit.classes.filter (fun decl => !decide (¬IsExempt config decl)) =
          unit.classes.filter (IsExempt config ·) := by
        apply List.filter_congr
        intro decl _
        simp
      rw [if_neg (skipReason?_eq_none_iff.mp reason)]
      simp only [walkClasses, visitsOutcome, List.filter_map, List.map_map, List.flatMap_map,
        Function.comp_def, isChecked_visitClass, isAnnotated_visitClass, name_visitClass, reports,
        failures, exempt, List.filter_filter]

/-- A walk leaves the unit as the policy does. -/
theorem unit_walkUnit : (walkUnit config rules unit).unit = unitAfter config unit := by
  unfold walkUnit
  cases reason : skipReason? config unit with
  | some reason => rw [unitAfter, if_pos (isSkipped_of_skipReason? reason)]
  | none =>
      rw [unitAfter, if_neg (skipReason?_eq_none_iff.mp reason)]
      simp [walkClasses, decl_visitClass]

/-- A walk warns of each failure, and of nothing else. -/
theorem warnings_walkUnit :
    (walkUnit config rules unit).records.filter (·.level = .warning) =
      if IsSkipped config unit then []
      else (failed (unitResults config rules unit)).map (·.record) := by
  unfold walkUnit
  cases reason : skipReason? config unit with
  | some why =>
      rw [if_pos (isSkipped_of_skipReason? reason)]
      cases why <;> rfl
  | none =>
      have failures := @flatMap_results_visitClass config rules unit _
        (fun results => (failed results).map (·.record)) rfl fun first second => by
          rw [failed, List.filterMap_append, List.map_append]
          rfl
      have quiet : [completionRecord unit.name (walkClasses config rules unit).outcome].filter
          (·.level = .warning) = [] := rfl
      rw [if_neg (skipReason?_eq_none_iff.mp reason), ← failures, walkClasses, List.filter_append,
        List.flatMap_map, List.filter_flatMap]
      simp only [warnings_visitClass]
      exact (congrArg _ quiet).trans (List.append_nil _)

end

end CompilePolicy.Policy

import CompilePolicy.Proofs.Engine.Agreement
import CompilePolicy.Proofs.Engine.Merging

/-!
# Violations in many units

A run over many units finds the violations of every checked class in every walked
unit. The marker that a class gets before it is checked neither makes nor hides a
violation, so they are the violations of the classes as they were declared. What is
counted along with them are the units, the classes, and the classes that had chosen
no compile mode.
-/

namespace CompilePolicy.Policy

/-! ## The marker -/

theorem marked_of_choosesMode (config : Configuration) {decl : ClassDecl}
    (chosen : ChoosesMode decl) : marked config decl = decl :=
  if_pos chosen

/-- A marked class has chosen its mode. -/
theorem choosesMode_marked (config : Configuration) (decl : ClassDecl) :
    ChoosesMode (marked config decl) := by
  by_cases chosen : ChoosesMode decl
  · rwa [marked_of_choosesMode config chosen]
  · rw [marked, if_neg chosen]
    exact ⟨marker config, by simp, .inl rfl⟩

theorem marked_marked (config : Configuration) (decl : ClassDecl) :
    marked config (marked config decl) = marked config decl :=
  marked_of_choosesMode config (choosesMode_marked config decl)

/-- Whether a class is exempt does not depend on the marker. -/
theorem isExempt_marked (config other : Configuration) (decl : ClassDecl) :
    IsExempt config (marked other decl) ↔ IsExempt config decl := by
  unfold marked
  split <;> rfl

theorem member_marker (config : Configuration) : (marker config).member modeMember = .absent := by
  unfold marker
  by_cases listed : config.allowedExtensions = []
  · simp [listed, Annotation.member]
  · have other : (modeMember == extensionsMember) = false := by
      decide
    simp [listed, Annotation.member, List.lookup_cons, other]

/-- The marker lists nothing that is not allowed. -/
theorem rejected_marker (config : Configuration) : rejected config [marker config] = [] := by
  unfold rejected marker
  by_cases listed : config.allowedExtensions = []
  · simp [listed, Annotation.member, Argument.items]
  · simp [listed, Annotation.member, Argument.items]

theorem rejected_append (config : Configuration) (first second : List Annotation) :
    rejected config (first ++ second) = rejected config first ++ rejected config second := by
  simp [rejected]

/-- The marker rejects no extension. -/
theorem rejected_marked (config : Configuration) (decl : ClassDecl) :
    rejected config (marked config decl).annotations = rejected config decl.annotations := by
  unfold marked
  split
  · rfl
  · rw [rejected_append, rejected_marker, List.append_nil]

/-- A class that opts out has chosen its mode. -/
theorem choosesMode_of_optsOut {decl : ClassDecl} (out : OptsOut decl.annotations) :
    ChoosesMode decl := by
  rcases out with ⟨note, listed, dynamic⟩ | ⟨front, note, back, mode, whole, _, isStatic, _⟩
  · exact ⟨note, listed, .inr dynamic⟩
  · exact ⟨note, by simp [whole], .inl isStatic⟩

/-- The marker opts out of nothing. -/
theorem optsOut_marked (config : Configuration) (decl : ClassDecl) :
    OptsOut (marked config decl).annotations ↔ OptsOut decl.annotations := by
  unfold marked
  split
  · rfl
  · rename_i undecided
    have free : ∀ note ∈ decl.annotations,
        note.name ≠ compileStatic ∧ note.name ≠ compileDynamic := by
      intro note listed
      exact ⟨fun isStatic => undecided ⟨note, listed, .inl isStatic⟩,
        fun dynamic => undecided ⟨note, listed, .inr dynamic⟩⟩
    dsimp only
    constructor
    · rintro (⟨note, listed, dynamic⟩ | ⟨front, note, back, mode, whole, _, isStatic, given, _⟩)
      · rcases List.mem_append.mp listed with own | added
        · exact absurd dynamic (free note own).2
        · rw [List.mem_singleton.mp added] at dynamic
          exact absurd dynamic (show compileStatic ≠ compileDynamic by decide)
      · have listed : note ∈ decl.annotations ++ [marker config] := by
          rw [whole]
          simp
        rcases List.mem_append.mp listed with own | added
        · exact absurd isStatic (free note own).1
        · rw [List.mem_singleton.mp added, member_marker] at given
          cases given
    · intro out
      exact absurd (choosesMode_of_optsOut out) undecided

/-- The marker neither makes nor hides a violation. -/
theorem violations_marked (config : Configuration) (skipped : List String) (decl : ClassDecl) :
    violations config skipped decl.name (.ofClass (marked config decl)) =
      violations config skipped decl.name (.ofClass decl) := by
  have fails : ∀ check : Check, check.Fails config decl.name (.ofClass (marked config decl)) ↔
      check.Fails config decl.name (.ofClass decl) := by
    have out := optsOut_marked config decl
    have listed := rejected_marked config decl
    intro check
    cases check <;> simp [Check.Fails, Node.annotations, Node.isDynamic, out, listed]
  unfold violations
  apply List.filter_congr
  intro check _
  rw [decide_eq_decide, Check.isViolated_iff, Check.isViolated_iff, fails]
  rfl

/-! ## Many units -/

/-- A check that is violated at a node, with the names of the unit and the class. -/
structure Violation where
  unit : String
  owner : String
  node : Node
  check : Check

/-- The report of a violation. -/
def Violation.report (config : Configuration) (violation : Violation) : Diagnostic :=
  violation.check.report config violation.unit violation.owner violation.node

/-- The violations in a class. -/
def violationsInClass (config : Configuration) (skipped : List String) (unitName : String)
    (decl : ClassDecl) : List Violation :=
  decl.nodes.flatMap fun node =>
    (violations config skipped decl.name node).map (⟨unitName, decl.name, node, ·⟩)

/-- The violations in a unit that is walked. -/
def violationsInUnit (config : Configuration) (skipped : List String) (unit : CompilationUnit) :
    List Violation :=
  (unit.classes.filter (¬IsExempt config ·)).flatMap
    (violationsInClass config skipped unit.name)

/-- The units that are walked. -/
def walked (config : Configuration) (units : List CompilationUnit) : List CompilationUnit :=
  units.filter (¬IsSkipped config ·)

/-- The classes that are checked. -/
def checked (config : Configuration) (units : List CompilationUnit) : List ClassDecl :=
  (walked config units).flatMap fun unit => unit.classes.filter (¬IsExempt config ·)

/-- The classes of walked units that are exempt. -/
def exempt (config : Configuration) (units : List CompilationUnit) : List ClassDecl :=
  (walked config units).flatMap fun unit => unit.classes.filter (IsExempt config ·)

/-- All violations, in the order in which they are found. -/
def found (config : Configuration) (skipped : List String) (units : List CompilationUnit) :
    List Violation :=
  (walked config units).flatMap (violationsInUnit config skipped)

/-- In a unit that is not skipped, a class that is not exempt has a node at which a check
is violated. -/
def HasViolation (config : Configuration) (skipped : List String)
    (units : List CompilationUnit) : Prop :=
  ∃ unit ∈ units, ¬IsSkipped config unit ∧ ∃ decl ∈ unit.classes, ¬IsExempt config decl ∧
    ∃ node ∈ decl.nodes, ∃ check : Check, check.IsViolated config skipped decl.name node

theorem mem_all (check : Check) : check ∈ Check.all := by
  cases check <;> decide

theorem mem_violations {config : Configuration} {skipped : List String} {className : String}
    {node : Node} {check : Check} :
    check ∈ violations config skipped className node ↔
      check.IsViolated config skipped className node := by
  simp [violations, mem_all]

/-- Something is found exactly if there is a violation. -/
theorem found_ne_nil_iff {config : Configuration} {skipped : List String}
    {units : List CompilationUnit} :
    found config skipped units ≠ [] ↔ HasViolation config skipped units := by
  constructor
  · intro some
    rcases List.exists_mem_of_ne_nil _ some with ⟨violation, listed⟩
    rcases List.mem_flatMap.mp listed with ⟨unit, isWalked, listed⟩
    rcases List.mem_flatMap.mp listed with ⟨decl, isChecked, listed⟩
    rcases List.mem_flatMap.mp listed with ⟨node, isNode, listed⟩
    rcases List.mem_map.mp listed with ⟨check, violated, rfl⟩
    rcases List.mem_filter.mp isWalked with ⟨isUnit, kept⟩
    rcases List.mem_filter.mp isChecked with ⟨isClass, notExempt⟩
    exact ⟨unit, isUnit, of_decide_eq_true kept, decl, isClass, of_decide_eq_true notExempt, node,
      isNode, check, mem_violations.mp violated⟩
  · rintro ⟨unit, isUnit, kept, decl, isClass, notExempt, node, isNode, check, violated⟩
    apply List.ne_nil_of_mem (a := (⟨unit.name, decl.name, node, check⟩ : Violation))
    refine List.mem_flatMap.mpr ⟨unit, List.mem_filter.mpr ⟨isUnit, decide_eq_true kept⟩, ?_⟩
    refine List.mem_flatMap.mpr ⟨decl, List.mem_filter.mpr ⟨isClass, decide_eq_true notExempt⟩, ?_⟩
    refine List.mem_flatMap.mpr ⟨node, isNode, ?_⟩
    exact List.mem_map.mpr ⟨check, mem_violations.mpr violated, rfl⟩

/-! ## The outcome of a run -/

/-- What a run over many units gives, but for its time. -/
def total (config : Configuration) (skipped : List String) (units : List CompilationUnit) :
    Outcome :=
  (units.map (outcome config skipped)).foldl Outcome.merge {}

/-- What only walked units have comes from those. -/
theorem flatMap_eq_flatMap_walked {α : Type} {config : Configuration}
    {units : List CompilationUnit} {all own : CompilationUnit → List α}
    (same : ∀ unit, all unit = if IsSkipped config unit then [] else own unit) :
    units.flatMap all = (walked config units).flatMap own := by
  rw [funext same, flatMap_ite_nil, walked]

section

variable (config : Configuration) (skipped : List String) (units : List CompilationUnit)

/-- A list of walked units only is made of what each of them has. -/
theorem list_total {α : Type} (list : Outcome → List α) {own : CompilationUnit → List α}
    (appends : ∀ first second : Outcome, list (first.merge second) = list first ++ list second)
    (none : list {} = [])
    (each : ∀ unit, list (outcome config skipped unit) =
      if IsSkipped config unit then [] else own unit) :
    list (total config skipped units) = (walked config units).flatMap own := by
  rw [total, foldl_merge_append appends, none, List.nil_append, List.flatMap_map]
  exact flatMap_eq_flatMap_walked each

theorem unitsProcessed_total :
    (total config skipped units).unitsProcessed = (walked config units).map (·.name) := by
  rw [List.map_eq_flatMap]
  apply list_total config skipped units Outcome.unitsProcessed (fun _ _ => rfl) rfl
  intro unit
  unfold outcome
  split <;> rfl

theorem unitsSkipped_total :
    (total config skipped units).unitsSkipped =
      (units.filter (IsSkipped config ·)).map (·.name) := by
  rw [total, @foldl_merge_append _ Outcome.unitsSkipped (fun _ _ => rfl), List.flatMap_map]
  induction units with
  | nil => rfl
  | cons unit rest ih =>
      have own : (outcome config skipped unit).unitsSkipped =
          if IsSkipped config unit then [unit.name] else [] := by
        unfold outcome
        split <;> rfl
      rw [List.flatMap_cons, own]
      by_cases skips : IsSkipped config unit
      · simpa [skips] using ih
      · simpa [skips] using ih

theorem classesChecked_total :
    (total config skipped units).classesChecked = (checked config units).map (·.name) := by
  rw [checked, List.map_flatMap]
  apply list_total config skipped units Outcome.classesChecked (fun _ _ => rfl) rfl
  intro unit
  unfold outcome
  split <;> rfl

theorem classesExempt_total :
    (total config skipped units).classesExempt = (exempt config units).map (·.name) := by
  rw [exempt, List.map_flatMap]
  apply list_total config skipped units Outcome.classesExempt (fun _ _ => rfl) rfl
  intro unit
  unfold outcome
  split <;> rfl

theorem classesAnnotated_total :
    (total config skipped units).classesAnnotated =
      ((checked config units).filter (¬ChoosesMode ·)).map (·.name) := by
  rw [checked, List.filter_flatMap, List.map_flatMap]
  apply list_total config skipped units Outcome.classesAnnotated (fun _ _ => rfl) rfl
  intro unit
  unfold outcome
  split <;> rfl

theorem nodes_marked (decl : ClassDecl) :
    (marked config decl).nodes = .ofClass (marked config decl) :: decl.nodes.tail := by
  unfold marked
  split <;> rfl

/-- What is read off the reports in a class without seeing the marker is read off its
violations. -/
theorem map_classReports_marked {α : Type} {unitName : String} {decl : ClassDecl}
    {reading : Diagnostic → α}
    (blind : ∀ check : Check,
      reading (check.report config unitName decl.name (.ofClass (marked config decl))) =
        reading (check.report config unitName decl.name (.ofClass decl))) :
    (classReports config skipped unitName (marked config decl)).map reading =
      (violationsInClass config skipped unitName decl).map fun violation =>
        reading (violation.report config) := by
  have nodes : decl.nodes = .ofClass decl :: decl.nodes.tail := rfl
  have own : (nodeReports config skipped unitName decl.name
        (.ofClass (marked config decl))).map reading =
      (nodeReports config skipped unitName decl.name (.ofClass decl)).map reading := by
    rw [nodeReports, violations_marked, nodeReports, List.map_map, List.map_map]
    exact List.map_congr_left fun check _ => blind check
  rw [classReports_eq, name_marked, nodes_marked, violationsInClass, List.map_flatMap,
    List.map_flatMap, nodes, List.flatMap_cons, List.flatMap_cons, own]
  simp [nodeReports, Function.comp_def, Violation.report]

/-- What is read off the diagnostics of a run without seeing the marker is read off the
violations that are found. -/
theorem map_diagnostics_total {α : Type} {reading : Diagnostic → α}
    (blind : ∀ unitName decl (check : Check),
      reading (check.report config unitName decl.name (.ofClass (marked config decl))) =
        reading (check.report config unitName decl.name (.ofClass decl))) :
    (total config skipped units).diagnostics.map reading =
      (found config skipped units).map fun violation => reading (violation.report config) := by
  rw [found, List.map_flatMap]
  apply list_total config skipped units fun outcome => outcome.diagnostics.map reading
  · intro first second
    exact List.map_append
  · rfl
  intro unit
  unfold outcome
  split
  · rfl
  · simp only [violationsInUnit, List.map_flatMap]
    congr 1
    funext decl
    exact map_classReports_marked config skipped (blind unit.name decl)

theorem length_diagnostics_total :
    (total config skipped units).diagnostics.length = (found config skipped units).length := by
  have counted := congrArg List.length
    (@map_diagnostics_total config skipped units _ (fun _ => ()) (fun _ _ _ => rfl))
  simpa using counted

/-- The rules that ran are those that are asked for and kept, if some unit is walked. -/
theorem rulesRun_total :
    (total config skipped units).rulesRun =
      if walked config units = [] then []
      else
        (Check.all.filter fun check => check.isAsked config ∧ check.id ∉ skipped).map (·.id) := by
  generalize asked : (Check.all.filter fun check =>
    check.isAsked config ∧ check.id ∉ skipped).map (·.id) = ids
  have distinct : ids.Nodup := by
    have all : (Check.all.map (·.id)).Nodup := by decide
    exact asked ▸ all.sublist (List.filter_sublist.map _)
  have each : ∀ unit, (outcome config skipped unit).rulesRun =
      if IsSkipped config unit then [] else ids := by
    intro unit
    rw [outcome, ← asked]
    split <;> rfl
  rw [total, rulesRun_foldl_merge, List.flatMap_map, flatMap_eq_flatMap_walked each,
    addMissing_flatMap_const distinct (.inl rfl)]
  simp

end

end CompilePolicy.Policy

import CompilePolicy.Proofs.Engine.History
import Mathlib.Data.List.Basic

/-!
# Running again

A run over units that are given by their places, where a place can come more than once.
The marker that a class gets neither makes nor hides a violation, and a marked class has
chosen its mode. So a run reports what the rules say of the classes as they were before
it, and running again on the tree that it leaves reports the same, marks no class and
leaves the tree.
-/

namespace CompilePolicy

namespace Policy

/-! ## Units that were walked before -/

/-- Walking a unit again leaves it. -/
theorem unitAfter_unitAfter (config : Configuration) (unit : CompilationUnit) :
    unitAfter config (unitAfter config unit) = unitAfter config unit := by
  by_cases skips : IsSkipped config unit
  · simp only [unitAfter, if_pos skips]
  · have walked : ∀ classes, ¬IsSkipped config { unit with classes } := fun _ => skips
    simp only [unitAfter, if_neg skips, if_neg (walked _), List.map_map]
    congr 2
    funext decl
    by_cases exempt : IsExempt config decl
    · simp [exempt]
    · simp [exempt, marked_marked]

/-- The classes that are checked after a walk are those that it checked, marked. -/
theorem filter_checked_after (config : Configuration) (classes : List ClassDecl) :
    (classes.map fun decl => if IsExempt config decl then decl else marked config decl).filter
        (¬IsExempt config ·) =
      (classes.filter (¬IsExempt config ·)).map (marked config) := by
  induction classes with
  | nil => rfl
  | cons decl rest ih =>
      have same := isExempt_marked config config decl
      by_cases exempt : IsExempt config decl
      · simpa [exempt] using ih
      · simpa [exempt, same] using ih

/-- The classes that are exempt stay as they are. -/
theorem filter_exempt_after (config : Configuration) (classes : List ClassDecl) :
    (classes.map fun decl => if IsExempt config decl then decl else marked config decl).filter
        (IsExempt config ·) =
      classes.filter (IsExempt config ·) := by
  induction classes with
  | nil => rfl
  | cons decl rest ih =>
      have same := isExempt_marked config config decl
      by_cases exempt : IsExempt config decl
      · simpa [exempt] using ih
      · simpa [exempt, same] using ih

/-- Walking a unit again reports what the first walk did, and marks no class. -/
theorem outcome_unitAfter (config : Configuration) (skipped : List String)
    (unit : CompilationUnit) :
    outcome config skipped (unitAfter config unit) =
      { outcome config skipped unit with classesAnnotated := [] } := by
  by_cases skips : IsSkipped config unit
  · simp only [unitAfter, outcome, if_pos skips]
  · have walked : ∀ classes, ¬IsSkipped config { unit with classes } := fun _ => skips
    simp only [unitAfter, outcome, if_neg skips, if_neg (walked _), filter_checked_after,
      filter_exempt_after]
    simp [Function.comp_def, List.flatMap_map, List.filter_map, choosesMode_marked,
      marked_marked]

/-! ## Reports on marked classes -/

/-- A diagnostic on a class that has been marked since. -/
def whenMarked (config : Configuration) (diagnostic : Diagnostic) : Diagnostic :=
  { diagnostic with
    subject :=
      match diagnostic.subject with
      | .node (.ofClass decl) => .node (.ofClass (marked config decl))
      | other => other }

section

variable (config : Configuration) (skipped : List String) (unitName : String)

theorem whenMarked_report_class (decl : ClassDecl) (check : Check) :
    whenMarked config (check.report config unitName decl.name (.ofClass decl)) =
      check.report config unitName decl.name (.ofClass (marked config decl)) := by
  cases check <;>
    simp only [whenMarked, Check.report, Check.metadata, Node.annotations, rejected_marked]

/-- Reports on fields, methods and parameters are not about the class. -/
theorem whenMarked_report_member {decl : ClassDecl} {node : Node} (member : node ∈ decl.nodes.tail)
    (className : String) (check : Check) :
    whenMarked config (check.report config unitName className node) =
      check.report config unitName className node := by
  cases node with
  | ofClass other => simp [ClassDecl.nodes] at member
  | ofField field => rfl
  | ofMethod method => rfl
  | ofParameter parameter => rfl

/-- The rules say of a marked class what they say of the class. -/
theorem classReports_marked (decl : ClassDecl) :
    classReports config skipped unitName (marked config decl) =
      (classReports config skipped unitName decl).map (whenMarked config) := by
  have nodes : decl.nodes = .ofClass decl :: decl.nodes.tail := rfl
  have own : nodeReports config skipped unitName decl.name (.ofClass (marked config decl)) =
      (nodeReports config skipped unitName decl.name (.ofClass decl)).map (whenMarked config) := by
    rw [nodeReports, violations_marked, nodeReports, List.map_map]
    apply List.map_congr_left
    intro check _
    exact (whenMarked_report_class config unitName decl check).symm
  have members : ∀ node ∈ decl.nodes.tail,
      nodeReports config skipped unitName decl.name node =
        (nodeReports config skipped unitName decl.name node).map (whenMarked config) := by
    intro node member
    rw [nodeReports, List.map_map]
    apply List.map_congr_left
    intro check _
    exact (whenMarked_report_member config unitName member decl.name check).symm
  rw [classReports_eq, classReports_eq, name_marked, nodes_marked, nodes, List.flatMap_cons,
    List.flatMap_cons, List.map_append, own, List.tail_cons, List.map_flatMap]
  congr 1
  exact List.flatMap_congr members

end

/-! ## Walks in some places -/

/-- What walks of the units in some places give, one after another. -/
def outcomesAt (config : Configuration) (skipped : List String) :
    List CompilationUnit → List Nat → List Outcome
  | _, [] => []
  | units, place :: rest =>
    let unit := units.getD place {}
    outcome config skipped unit ::
      outcomesAt config skipped (units.set place (unitAfter config unit)) rest

section

variable (config : Configuration) (skipped : List String)

/-- What is read off a unit and is the same after its walk is read off all units after a
walk of one of them. -/
theorem reading_set_unitAfter {α : Type} {reading : CompilationUnit → α}
    (blind : ∀ unit, reading (unitAfter config unit) = reading unit)
    (units : List CompilationUnit) (walked place : Nat) :
    reading ((units.set walked (unitAfter config (units.getD walked {}))).getD place {}) =
      reading (units.getD place {}) := by
  by_cases inside : walked < units.length
  · by_cases same : walked = place
    · subst same
      rw [List.getD_eq_getElem?_getD, List.getElem?_set_self inside, Option.getD_some, blind]
    · rw [List.getD_eq_getElem?_getD, List.getElem?_set_ne same, ← List.getD_eq_getElem?_getD]
  · rw [List.set_eq_of_length_le (Nat.le_of_not_lt inside)]

/-- But for the classes that they mark, walks report what they find in the units as these
were before. -/
theorem map_outcomesAt {α : Type} {reading : Outcome → α}
    (blind : ∀ outcome : Outcome, reading { outcome with classesAnnotated := [] } = reading outcome)
    (units : List CompilationUnit) (places : List Nat) :
    (outcomesAt config skipped units places).map reading =
      places.map fun place => reading (outcome config skipped (units.getD place {})) := by
  induction places generalizing units with
  | nil => rfl
  | cons first rest ih =>
      rw [outcomesAt, List.map_cons, ih, List.map_cons]
      congr 1
      apply List.map_congr_left
      intro place _
      apply @reading_set_unitAfter config _ fun unit => reading (outcome config skipped unit)
      intro unit
      rw [outcome_unitAfter, blind]

/-- A walk leaves its unit as the policy does, also where there is none. -/
theorem getD_set_unitAfter_self (units : List CompilationUnit) (place : Nat) :
    (units.set place (unitAfter config (units.getD place {}))).getD place {} =
      unitAfter config (units.getD place {}) := by
  by_cases inside : place < units.length
  · rw [List.getD_eq_getElem?_getD, List.getElem?_set_self inside, Option.getD_some]
  · have outside := Nat.le_of_not_lt inside
    rw [List.set_eq_of_length_le outside, List.getD_eq_getElem?_getD,
      List.getElem?_eq_none outside, Option.getD_none]
    simp [unitAfter]

/-- Walks mark the classes of a unit when they come to it for the first time. -/
theorem flatMap_classesAnnotated_outcomesAt (units : List CompilationUnit) (places : List Nat) :
    (outcomesAt config skipped units places).flatMap (·.classesAnnotated) =
      places.eraseDups.flatMap fun place =>
        (outcome config skipped (units.getD place {})).classesAnnotated := by
  induction places generalizing units with
  | nil => rfl
  | cons first rest ih =>
      have later : ∀ place, (outcome config skipped
          ((units.set first (unitAfter config (units.getD first {}))).getD place
            {})).classesAnnotated =
          if place = first then []
          else (outcome config skipped (units.getD place {})).classesAnnotated := by
        intro place
        split
        · rename_i same
          rw [same, getD_set_unitAfter_self, outcome_unitAfter]
        · rename_i other
          rw [List.getD_eq_getElem?_getD, List.getElem?_set_ne (Ne.symm other),
            ← List.getD_eq_getElem?_getD]
      rw [outcomesAt, List.flatMap_cons, ih, List.eraseDups_cons, List.flatMap_cons,
        eraseDups_filter]
      simp only [later, flatMap_ite_nil]
      congr 2
      apply List.filter_congr
      intro place _
      rw [decide_not, beq_eq_decide]

/-- Walks of units that were walked before mark no class. -/
theorem classesAnnotated_outcomesAt {units : List CompilationUnit} {places : List Nat}
    (settled : ∀ place ∈ places, unitAfter config (units.getD place {}) = units.getD place {}) :
    ∀ outcome ∈ outcomesAt config skipped units places, outcome.classesAnnotated = [] := by
  induction places with
  | nil => exact fun _ listed => nomatch listed
  | cons first rest ih =>
      rw [List.forall_mem_cons] at settled
      rw [outcomesAt, List.forall_mem_cons, settled.1, set_getD]
      constructor
      · rw [← settled.1, outcome_unitAfter]
      · exact ih settled.2

end

end Policy

/-! ## Runs in some places -/

/-- An outcome without its time and the classes that were marked. -/
def Outcome.unmarked (outcome : Outcome) : Outcome :=
  { outcome.untimed with classesAnnotated := [] }

theorem Outcome.untimed_eq_unmarked {outcome : Outcome} (none : outcome.classesAnnotated = []) :
    outcome.untimed = outcome.unmarked := by
  rw [unmarked, ← none]
  rfl

theorem unmarked_merge (first second : Outcome) :
    (first.merge second).unmarked = (first.unmarked.merge second.unmarked).unmarked :=
  rfl

/-- Outcomes are merged apart from their times and the classes that were marked. -/
theorem unmarked_foldl_merge {outcomes others : List Outcome}
    (same : outcomes.map Outcome.unmarked = others.map Outcome.unmarked) {first second : Outcome}
    (start : first.unmarked = second.unmarked) :
    (outcomes.foldl Outcome.merge first).unmarked =
      (others.foldl Outcome.merge second).unmarked := by
  induction outcomes generalizing others first second with
  | nil =>
      rw [List.map_nil, eq_comm, List.map_eq_nil_iff] at same
      rw [same]
      exact start
  | cons outcome rest ih =>
      cases others with
      | nil => cases same
      | cons other others =>
          obtain ⟨next, same⟩ := List.cons.inj same
          apply ih same
          rw [unmarked_merge, start, next, ← unmarked_merge]

namespace Policy

variable (config : Configuration) (skipped : List String) (units : List CompilationUnit)

/-- What a run over the units in some places gives, but for its time. -/
def totalAt (places : List Nat) : Outcome :=
  (outcomesAt config skipped units places).foldl Outcome.merge {}

/-- But for the classes that it marks, a run gives what the units give that it walks. -/
theorem unmarked_totalAt (places : List Nat) :
    (totalAt config skipped units places).unmarked =
      (total config skipped (places.map (units.getD · {}))).unmarked := by
  apply unmarked_foldl_merge _ rfl
  rw [map_outcomesAt config skipped fun _ => rfl, List.map_map, List.map_map]
  rfl

/-- What does not depend on times and on the classes that were marked is read off the units
as they were before the run. -/
theorem reading_totalAt {α : Type} (reading : Outcome → α)
    (blind : ∀ outcome : Outcome, reading outcome.unmarked = reading outcome)
    {places : List Nat} {outcome : Outcome}
    (same : outcome.untimed = (totalAt config skipped units places).untimed) :
    reading outcome = reading (total config skipped (places.map (units.getD · {}))) := by
  calc
    reading outcome = reading outcome.untimed.unmarked := (blind outcome).symm
    _ = reading (totalAt config skipped units places).unmarked := by
      rw [same]
      rfl
    _ = reading (total config skipped (places.map (units.getD · {}))) := by
      rw [unmarked_totalAt, blind]

/-- The classes that a run marks are those that the units give where it first comes to
them. -/
theorem classesAnnotated_totalAt (places : List Nat) :
    (totalAt config skipped units places).classesAnnotated =
      (total config skipped (places.eraseDups.map (units.getD · {}))).classesAnnotated := by
  have appends : ∀ first second : Outcome, (first.merge second).classesAnnotated =
      first.classesAnnotated ++ second.classesAnnotated := fun _ _ => rfl
  rw [totalAt, foldl_merge_append appends, flatMap_classesAnnotated_outcomesAt, total,
    foldl_merge_append appends, List.map_map, List.flatMap_map]
  rfl

/-- The classes that a run marks are those without a chosen mode among those that it checks,
in the units to which it comes for the first time. -/
theorem classesAnnotated_run {places : List Nat} {outcome : Outcome}
    (same : outcome.untimed = (totalAt config skipped units places).untimed) :
    outcome.classesAnnotated =
      ((checked config (places.eraseDups.map (units.getD · {}))).filter (¬ChoosesMode ·)).map
        (·.name) := by
  have read : outcome.classesAnnotated = (totalAt config skipped units places).classesAnnotated :=
    congrArg (·.classesAnnotated) same
  rw [read, classesAnnotated_totalAt, classesAnnotated_total]

/-- The diagnostics of a run are those that the rules give on the classes before they are
marked. -/
theorem diagnostics_total :
    (total config skipped units).diagnostics =
      (walked config units).flatMap fun unit =>
        (unit.classes.filter (¬IsExempt config ·)).flatMap fun decl =>
          (classReports config skipped unit.name decl).map (whenMarked config) := by
  apply list_total config skipped units Outcome.diagnostics (fun _ _ => rfl) rfl
  intro unit
  unfold outcome
  split
  · rfl
  · simp only [classReports_marked]

end Policy

namespace Session

variable {config : Configuration} {skipped : List String} {session : Session}

/-- Walks of the units in some places, one after another. -/
theorem IsReady.run_executeOnto_places (ready : session.IsReady config skipped)
    (outcome : Outcome) (places : List Nat) :
    ∃ merged next, session.run (executeOnto outcome places) = (.ok merged, next) ∧
      next.IsReady config skipped ∧
      merged.untimed =
        ((Policy.outcomesAt config skipped session.units places).foldl Outcome.merge
          outcome).untimed := by
  induction places generalizing session outcome with
  | nil => exact ⟨outcome, session, run_pure session outcome, ready, rfl⟩
  | cons place rest ih =>
      obtain ⟨first, next, ran, ready', same, placed, -⟩ := ready.run_execute_at place
      obtain ⟨asPolicy, leaves⟩ :=
        Policy.walkUnit_builtIn config skipped (session.units.getD place {})
      obtain ⟨merged, last, ran', ready'', same'⟩ := ih ready' (outcome.merge first)
      refine ⟨merged, last, ?_, ready'', ?_⟩
      · rw [executeOnto, run_bind_of_ok session ran, ran']
      · rw [same', placed, leaves, Policy.outcomesAt, List.foldl_cons, ← asPolicy, ← same]
        exact untimed_foldl_merge _ rfl

/-- A run of an engine that knows its configuration: what it gives, and the tree after it. -/
theorem IsReady.run_places (ready : session.IsReady config skipped) (places : List Nat) :
    ∃ merged next, session.run (executeMany places) = (.ok merged, next) ∧
      next.IsReady config skipped ∧
      merged.untimed = (Policy.totalAt config skipped session.units places).untimed ∧
      next.units = (Call.executeMany places).treeAfter config session.units := by
  obtain ⟨merged, next, ran, ready', same⟩ := ready.run_executeOnto_places {} places
  have left := (Call.executeMany places).leaves session
  rw [Call.sessionAfter, executeMany, ran] at left
  exact ⟨merged, next, ran, ready', same, left.tree_of_known ready'.configured⟩

/-- A run of an engine that was given its configuration. What does not depend on times and
on the classes that are marked is read off the units as they were before the run. -/
theorem run_given (session : Session) (config : Configuration) (skipped : List String)
    (places : List Nat) :
    ∃ outcome next,
      Session.run
          { session with
            registry := .builtIn
            engine := { configuration := some config, skipped } }
          (executeMany places) =
        (.ok outcome, next) ∧
      (∀ {α : Type} (reading : Outcome → α),
        (∀ outcome : Outcome, reading outcome.unmarked = reading outcome) →
          reading outcome =
            reading (Policy.total config skipped (places.map (session.units.getD · {})))) ∧
      outcome.classesAnnotated =
        ((Policy.checked config (places.eraseDups.map (session.units.getD · {}))).filter
          (¬Policy.ChoosesMode ·)).map (·.name) ∧
      next.units = (Call.executeMany places).treeAfter config session.units := by
  have ready : Session.IsReady config skipped
      { session with
        registry := .builtIn
        engine := { configuration := some config, skipped } } :=
    ⟨rfl, rfl, rfl, by simp⟩
  obtain ⟨outcome, next, ran, -, same, tree⟩ := ready.run_places places
  exact ⟨outcome, next, ran,
    fun reading blind => Policy.reading_totalAt config skipped _ reading blind same,
    Policy.classesAnnotated_run config skipped _ same, tree⟩

end Session

/-! ## The tree after a run -/

namespace Call

variable {config : Configuration} (units : List CompilationUnit)

/-- A call that is made again leaves the tree. -/
theorem treeAfter_treeAfter (call : Call) :
    call.treeAfter config (call.treeAfter config units) = call.treeAfter config units := by
  simp only [treeAfter, revised_revised]
  congr 1
  funext unitPlace unit declPlace decl
  simp only [reaches_iff _ _ _ _ _ (isExempt_ite_marked ..)]
  by_cases reached : call.Reaches config unitPlace unit declPlace decl
  · simp only [if_pos reached, Policy.marked_marked]
  · simp only [if_neg reached]

/-- The units in the places of a run are those after a walk. -/
theorem getD_treeAfter_executeMany {places : List Nat} {place : Nat} (walked : place ∈ places) :
    ((executeMany places).treeAfter config units).getD place {} =
      Policy.unitAfter config (units.getD place {}) := by
  rw [treeAfter, revised, List.getD_eq_getElem?_getD, List.getElem?_mapIdx,
    List.getD_eq_getElem?_getD]
  cases units[place]? with
  | none => simp [Policy.unitAfter]
  | some unit =>
      by_cases skips : Policy.IsSkipped config unit
      · simp [Reaches, skips, Policy.unitAfter, mapIdx_map]
      · simp [Reaches, skips, walked, Policy.unitAfter, mapIdx_map]

end Call

/-! ## Running again -/

namespace Policy

variable (config : Configuration) (skipped : List String) (units : List CompilationUnit)
  (places : List Nat)

/-- A run on the tree that it left gives what it gave, and marks no class. -/
theorem untimed_totalAt_again :
    (totalAt config skipped ((Call.executeMany places).treeAfter config units) places).untimed =
      { (totalAt config skipped units places).untimed with classesAnnotated := [] } := by
  have found : ∀ place ∈ places,
      ((Call.executeMany places).treeAfter config units).getD place {} =
        unitAfter config (units.getD place {}) :=
    fun _ walked => Call.getD_treeAfter_executeMany units walked
  have unmarked :
      (totalAt config skipped ((Call.executeMany places).treeAfter config units) places).unmarked =
        (totalAt config skipped units places).unmarked := by
    apply unmarked_foldl_merge _ rfl
    rw [map_outcomesAt config skipped fun _ => rfl, map_outcomesAt config skipped fun _ => rfl]
    apply List.map_congr_left
    intro place walked
    rw [found place walked, outcome_unitAfter]
    rfl
  have none : (totalAt config skipped ((Call.executeMany places).treeAfter config units)
      places).classesAnnotated = [] := by
    rw [totalAt, @foldl_merge_append _ Outcome.classesAnnotated (fun _ _ => rfl),
      List.nil_append, List.flatMap_eq_nil_iff]
    apply classesAnnotated_outcomesAt
    intro place walked
    rw [found place walked, unitAfter_unitAfter]
  exact (Outcome.untimed_eq_unmarked none).trans unmarked

end Policy

/-- An engine that was given a configuration runs over the units in some places, and then
again. The first run reports what the rules say of the classes as they were before any was
marked, in the units that are not skipped and of the classes that are not exempt. The
second run gives what the first one did, but for the time and for the classes that are
marked, of which there are none, and leaves the tree. -/
theorem rerun_gives_same (session : Session) (config : Configuration) (skipped : List String)
    (places : List Nat) :
    let rules := Registry.builtIn.activeRules config skipped
    ∃ first middle second last,
      Session.run
          { session with
            registry := .builtIn
            engine := { configuration := some config, skipped } }
          (Session.executeMany places) =
        (.ok first, middle) ∧
      middle.run (Session.executeMany places) = (.ok second, last) ∧
      first.diagnostics =
        (Policy.walked config (places.map (session.units.getD · {}))).flatMap (fun unit =>
          (unit.classes.filter (¬Policy.IsExempt config ·)).flatMap fun decl =>
            (reported (checkClass config rules unit.name decl)).map
              (Policy.whenMarked config)) ∧
      second.untimed = { first.untimed with classesAnnotated := [] } ∧
      last.units = middle.units := by
  intro rules
  have ready : Session.IsReady config skipped
      { session with
        registry := .builtIn
        engine := { configuration := some config, skipped } } :=
    ⟨rfl, rfl, rfl, by simp⟩
  obtain ⟨first, middle, ran, ready', same, tree⟩ := ready.run_places places
  obtain ⟨second, last, ran', -, same', tree'⟩ := ready'.run_places places
  refine ⟨first, middle, second, last, ran, ran', ?_, ?_, ?_⟩
  · rw [Policy.reading_totalAt config skipped session.units Outcome.diagnostics (fun _ => rfl) same,
      Policy.diagnostics_total]
    simp only [rules, Policy.reported_checkClass]
  · rw [same', tree, Policy.untimed_totalAt_again, ← same]
  · rw [tree', tree, Call.treeAfter_treeAfter]

end CompilePolicy

import CompilePolicy.Proofs.Engine.Execution
import CompilePolicy.Proofs.Engine.Violation
import Mathlib.Logic.Function.Basic

/-!
# Histories of calls

Several engines work on one tree, one call after another. A call walks units, attaches
the marker to a class, or only checks a class. What is around the tree and the engines
can be different at each call: the registered rules, what the resolver reads, the clock.

A call changes the tree by marking the classes that it reaches and that have not chosen
their compile mode, and nothing else. A marked class has chosen its mode, so over a whole
history a class gets at most one marker: that of the first call which reaches it.
-/

namespace CompilePolicy

open Policy

/-! ## Calls -/

/-- A call of an engine. Units are given by their place in the tree, and classes by
their place in the unit. -/
inductive Call where
  | execute (unit : Nat)
  | executeMany (units : List Nat)
  | attach (unit decl : Nat)
  | enforce (unit decl : Nat) (unitName : String)

/-- The session after a call, whatever the call gives. -/
def Call.sessionAfter (session : Session) : Call → Session
  | .execute unit => (session.run (Session.execute unit)).2
  | .executeMany units => (session.run (Session.executeMany units)).2
  | .attach unit decl => (session.run (Session.attach unit decl)).2
  | .enforce unit decl unitName => (session.run (Session.enforce unit decl unitName)).2

/-- A call reaches a class to mark it. A walk reaches the classes that are not exempt in
the units that are not skipped. A call that attaches the marker reaches its class,
whatever the configuration says of the class and its unit. -/
def Call.Reaches (config : Configuration) (unitPlace : Nat) (unit : CompilationUnit)
    (declPlace : Nat) (decl : ClassDecl) : Call → Prop
  | .execute walked => walked = unitPlace ∧ ¬IsSkipped config unit ∧ ¬IsExempt config decl
  | .executeMany walked => unitPlace ∈ walked ∧ ¬IsSkipped config unit ∧ ¬IsExempt config decl
  | .attach owner position => owner = unitPlace ∧ position = declPlace
  | .enforce .. => False

instance (config : Configuration) (unitPlace : Nat) (unit : CompilationUnit) (declPlace : Nat)
    (decl : ClassDecl) :
    (call : Call) → Decidable (call.Reaches config unitPlace unit declPlace decl)
  | .execute _ => inferInstanceAs (Decidable (_ ∧ _))
  | .executeMany _ => inferInstanceAs (Decidable (_ ∧ _))
  | .attach _ _ => inferInstanceAs (Decidable (_ ∧ _))
  | .enforce .. => inferInstanceAs (Decidable False)

/-! ## Revised trees -/

theorem mapIdx_map {α β : Type} (change : α → β) (values : List α) :
    values.mapIdx (fun _ value => change value) = values.map change := by
  apply List.ext_getElem?
  intro place
  rw [List.getElem?_mapIdx, List.getElem?_map]

/-- To put a changed value in its place is to change the value at the place. -/
theorem set_getD_eq_mapIdx {α : Type} (values : List α) (place : Nat) (default : α)
    (change : α → α) :
    values.set place (change (values.getD place default)) =
      values.mapIdx fun other value => if place = other then change value else value := by
  apply List.ext_getElem?
  intro other
  rw [List.getElem?_set, List.getElem?_mapIdx]
  by_cases here : place = other
  · subst here
    cases there : values[place]? with
    | none =>
        rw [List.getElem?_eq_none_iff] at there
        simp [Nat.not_lt.mpr there]
    | some value =>
        obtain ⟨inside, rfl⟩ := List.getElem?_eq_some_iff.mp there
        simp [inside]
  · simp [here]

/-- A tree with each class revised, by its unit and the places of both. -/
def revised (revise : Nat → CompilationUnit → Nat → ClassDecl → ClassDecl)
    (units : List CompilationUnit) : List CompilationUnit :=
  units.mapIdx fun unitPlace unit =>
    { unit with classes := unit.classes.mapIdx (revise unitPlace unit) }

theorem revised_id (units : List CompilationUnit) :
    revised (fun _ _ _ decl => decl) units = units := by
  simp only [revised, mapIdx_map, List.map_id']

/-- A tree is revised twice class by class. -/
theorem revised_revised (first second : Nat → CompilationUnit → Nat → ClassDecl → ClassDecl)
    (units : List CompilationUnit) :
    revised second (revised first units) =
      revised (fun unitPlace unit declPlace decl =>
        second unitPlace { unit with classes := unit.classes.mapIdx (first unitPlace unit) }
          declPlace (first unitPlace unit declPlace decl)) units := by
  simp [revised, List.mapIdx_mapIdx, Function.comp_def]

/-- What is done with classes that are not in the tree does not count. -/
theorem revised_congr {first second : Nat → CompilationUnit → Nat → ClassDecl → ClassDecl}
    {units : List CompilationUnit}
    (same : ∀ unitPlace unit, units[unitPlace]? = some unit →
      ∀ declPlace decl, unit.classes[declPlace]? = some decl →
        first unitPlace unit declPlace decl = second unitPlace unit declPlace decl) :
    revised first units = revised second units := by
  apply List.ext_getElem?
  intro unitPlace
  rw [revised, revised, List.getElem?_mapIdx, List.getElem?_mapIdx]
  cases there : units[unitPlace]? with
  | none => rfl
  | some unit =>
      have classes : unit.classes.mapIdx (first unitPlace unit) =
          unit.classes.mapIdx (second unitPlace unit) := by
        apply List.ext_getElem?
        intro declPlace
        rw [List.getElem?_mapIdx, List.getElem?_mapIdx]
        cases inside : unit.classes[declPlace]? with
        | none => rfl
        | some decl =>
            rw [Option.map_some, Option.map_some, same unitPlace unit there declPlace decl inside]
      rw [Option.map_some, Option.map_some, classes]

/-- A class of a revised tree. -/
theorem Session.classAt_of_revised
    {revise : Nat → CompilationUnit → Nat → ClassDecl → ClassDecl}
    {session : Session} {units : List CompilationUnit} (tree : session.units = revised revise units)
    {unitPlace : Nat} {unit : CompilationUnit} (there : units[unitPlace]? = some unit)
    {declPlace : Nat} {decl : ClassDecl} (inside : unit.classes[declPlace]? = some decl) :
    session.classAt unitPlace declPlace = revise unitPlace unit declPlace decl := by
  simp [Session.classAt, tree, revised, there, inside]

/-- Marking a class, or not, does not make it exempt. -/
theorem isExempt_ite_marked (config other : Configuration) (reached : Prop) [Decidable reached]
    (decl : ClassDecl) :
    IsExempt config (if reached then marked other decl else decl) ↔ IsExempt config decl := by
  split
  · exact isExempt_marked config other decl
  · rfl

/-- The tree after a call under a configuration: the classes that are reached are
marked. -/
def Call.treeAfter (config : Configuration) (units : List CompilationUnit) (call : Call) :
    List CompilationUnit :=
  revised (fun unitPlace unit declPlace decl =>
    if call.Reaches config unitPlace unit declPlace decl then marked config decl else decl) units

namespace Call

variable {config : Configuration} (units : List CompilationUnit)

/-- A call that reaches no class leaves the tree. -/
theorem treeAfter_of_unreached {call : Call}
    (unreached : ∀ unitPlace unit declPlace decl,
      ¬call.Reaches config unitPlace unit declPlace decl) :
    call.treeAfter config units = units := by
  simp only [treeAfter, unreached, if_false, revised_id]

theorem treeAfter_execute (position : Nat) :
    (execute position).treeAfter config units =
      units.set position (unitAfter config (units.getD position {})) := by
  rw [set_getD_eq_mapIdx, treeAfter, revised]
  congr 1
  funext unitPlace unit
  by_cases here : position = unitPlace
  · by_cases skips : IsSkipped config unit
    · simp [Reaches, here, unitAfter, skips, mapIdx_map]
    · simp [Reaches, here, unitAfter, skips, mapIdx_map]
  · simp [Reaches, here, mapIdx_map]

/-- Giving one class the marker, unless it has chosen its mode. -/
theorem treeAfter_attach (owner position : Nat) :
    (attach owner position).treeAfter config units =
      units.set owner
        { units.getD owner {} with
          classes := (units.getD owner {}).classes.set position
            (marked config ((units.getD owner {}).classes.getD position { name := "" })) } := by
  rw [set_getD_eq_mapIdx units owner {} fun unit =>
      { unit with
        classes := unit.classes.set position
          (marked config (unit.classes.getD position { name := "" })) },
    treeAfter, revised]
  congr 1
  funext unitPlace unit
  by_cases here : owner = unitPlace
  · rw [if_pos here, set_getD_eq_mapIdx unit.classes position _ (marked config)]
    simp [Reaches, here]
  · simp [Reaches, here, mapIdx_map]

/-- What a call reaches does not depend on the annotations of classes. -/
theorem reaches_iff (call : Call) (unitPlace : Nat) (unit : CompilationUnit)
    (classes : List ClassDecl) (declPlace : Nat) {decl revised : ClassDecl}
    (exempt : IsExempt config revised ↔ IsExempt config decl) :
    call.Reaches config unitPlace { unit with classes } declPlace revised ↔
      call.Reaches config unitPlace unit declPlace decl := by
  have skips : IsSkipped config { unit with classes } ↔ IsSkipped config unit := .rfl
  cases call <;> simp only [Reaches, exempt, skips]

/-- Walks of several units mark what the first walk reaches, and then what the others
reach. -/
theorem treeAfter_executeMany (position : Nat) (rest : List Nat) :
    (executeMany (position :: rest)).treeAfter config units =
      (executeMany rest).treeAfter config ((execute position).treeAfter config units) := by
  simp only [treeAfter, revised_revised]
  congr 1
  funext unitPlace unit declPlace decl
  have again := marked_marked config decl
  simp only [reaches_iff _ _ _ _ _ (isExempt_ite_marked ..)]
  simp only [Reaches, List.mem_cons]
  grind

end Call

/-! ## What a call leaves -/

/-- A call keeps the configuration of its engine, and marks the classes that it reaches
under the configuration that the engine has after it. Without one it leaves the tree. -/
structure Call.Leaves (call : Call) (before after : Session) : Prop where
  keeps : ∀ config, before.engine.configuration = some config →
    after.engine.configuration = some config
  tree : after.units =
    match after.engine.configuration with
    | some config => call.treeAfter config before.units
    | none => before.units

namespace Call.Leaves

variable {call : Call} {before after : Session} (leaves : call.Leaves before after)
include leaves

theorem tree_of_known {config : Configuration}
    (known : after.engine.configuration = some config) :
    after.units = call.treeAfter config before.units := by
  rw [leaves.tree, known]

theorem tree_of_unknown (unknown : after.engine.configuration = none) :
    after.units = before.units := by
  rw [leaves.tree, unknown]

omit leaves

theorem of_known {config : Configuration} (known : after.engine.configuration = some config)
    (given : ∀ old, before.engine.configuration = some old → old = config)
    (units : after.units = call.treeAfter config before.units) : call.Leaves before after := by
  constructor
  · intro old had
    rw [given old had, known]
  · rw [known, units]

theorem of_unknown (unknown : after.engine.configuration = none)
    (given : before.engine.configuration = none) (units : after.units = before.units) :
    call.Leaves before after := by
  constructor
  · intro old had
    rw [given] at had
    cases had
  · rw [unknown, units]

end Call.Leaves

namespace Session

/-- An engine takes a configuration if it has none, and keeps it. -/
theorem run_configuration (session : Session) :
    (∃ config next, session.run configuration = (.ok config, next) ∧
      next.engine.configuration = some config ∧
      (∀ old, session.engine.configuration = some old → old = config) ∧
      next.units = session.units) ∨
    ∃ fault next, session.run configuration = (.error fault, next) ∧
      next.engine.configuration = none ∧ session.engine.configuration = none ∧
      next.units = session.units := by
  cases known : session.engine.configuration with
  | some config =>
      exact .inl ⟨config, session, run_configuration_of_known known, known, by simp, rfl⟩
  | none =>
      rw [configuration, run_bind_of_ok session (run_get session), known]
      dsimp only
      rw [run_bind_of_ok session (run_set session _), run_bind_of_ok _ (run_report ..)]
      cases result : (session.resolver.get session.files session.origin.read).result with
      | error fault => exact .inr ⟨fault, _, rfl, known, rfl, rfl⟩
      | ok resolved => exact .inl ⟨resolved.configuration, _, rfl, rfl, by simp, rfl⟩

end Session

namespace Call

open Session

/-- A walk leaves what its call does, and fails exactly for want of a configuration. -/
theorem run_execute_leaves (session : Session) (position : Nat) :
    ∃ result next, session.run (Session.execute position) = (result, next) ∧
      (execute position).Leaves session next ∧
      (next.engine.configuration = none ↔ ∃ fault, result = .error fault) := by
  obtain ⟨config, begun, ran, configured, given, units⟩ | ⟨fault, begun, ran, none, given, units⟩ :=
    run_configuration { session with clock := session.clock.advance }
  · obtain ⟨table, engine, built, kept⟩ := run_tableFor_of_known configured
    obtain ⟨outcome, next, walked, -, placed, -, -, engines⟩ :=
      run_execute_of_resolved ran built position
    have same : next.engine.configuration = some config := by
      rw [engines]
      split
      · exact kept
      · exact configured
    refine ⟨.ok outcome, next, walked, .of_known same given ?_, by simp [same]⟩
    rw [placed, units, unit_walkUnit, treeAfter_execute]
  · refine ⟨.error fault, begun, ?_, .of_unknown none given units, by simp [none]⟩
    rw [Session.execute, run_bind_of_ok session (run_readClock session), run_bind, ran]

theorem leaves_execute (session : Session) (position : Nat) :
    (execute position).Leaves session ((execute position).sessionAfter session) := by
  obtain ⟨result, next, ran, leaves, -⟩ := run_execute_leaves session position
  rw [sessionAfter, ran]
  exact leaves

/-- A call that would change nothing leaves the tree. -/
theorem leaves_self {call : Call} {session : Session}
    (idle : ∀ config, call.treeAfter config session.units = session.units) :
    call.Leaves session session := by
  constructor
  · exact fun _ known => known
  · split
    · rw [idle]
    · rfl

/-- Walks of several units, one after another. -/
theorem leaves_executeOnto (session : Session) (outcome : Outcome) (positions : List Nat) :
    (executeMany positions).Leaves session (session.run (executeOnto outcome positions)).2 := by
  induction positions generalizing session outcome with
  | nil =>
      apply leaves_self
      intro config
      apply treeAfter_of_unreached
      simp [Reaches]
  | cons position rest ih =>
      obtain ⟨result, next, ran, first, fails⟩ := run_execute_leaves session position
      rw [executeOnto, run_bind, ran]
      cases result with
      | error fault =>
          have unknown : next.engine.configuration = none := fails.mpr ⟨fault, rfl⟩
          constructor
          · exact first.keeps
          · rw [unknown]
            exact first.tree_of_unknown unknown
      | ok value =>
          obtain ⟨config, known⟩ : ∃ config, next.engine.configuration = some config := by
            rw [← Option.ne_none_iff_exists']
            intro unknown
            obtain ⟨fault, isFault⟩ := fails.mp unknown
            cases isFault
          have others := ih next (outcome.merge value)
          have still := others.keeps config known
          constructor
          · exact fun old had => others.keeps old (first.keeps old had)
          · dsimp only
            rw [still, others.tree_of_known still, first.tree_of_known known]
            exact (treeAfter_executeMany session.units position rest).symm

theorem leaves_attach (session : Session) (owner position : Nat) :
    (attach owner position).Leaves session ((attach owner position).sessionAfter session) := by
  rw [sessionAfter, Session.attach, run_bind_of_ok session (run_get session)]
  by_cases chosen : ChoosesMode (session.classAt owner position)
  · rw [if_pos (choosesMode_iff.mpr chosen)]
    apply leaves_self
    intro config
    have kept : marked config (session.classAt owner position) = _ :=
      marked_of_choosesMode config chosen
    rw [treeAfter_attach, ← classAt, kept, classAt, set_getD, set_getD]
  · rw [if_neg (mt choosesMode_iff.mp chosen)]
    obtain ⟨config, next, ran, configured, given, units⟩ | ⟨fault, next, ran, none, given, units⟩ :=
      run_configuration session
    · have attached : attachMarker config (session.classAt owner position) =
          marked config (session.classAt owner position) := by
        rw [← markedClass_eq, markedClass, if_neg (mt choosesMode_iff.mp chosen)]
      rw [run_bind_of_ok session ran, run_bind_of_ok next (run_setClass ..), attached, units]
      refine .of_known ?_ given ?_
      · exact configured
      · exact (treeAfter_attach session.units owner position).symm
    · rw [run_bind, ran]
      exact .of_unknown none given units

theorem leaves_enforce (session : Session) (owner position : Nat) (unitName : String) :
    (enforce owner position unitName).Leaves session
      ((enforce owner position unitName).sessionAfter session) := by
  rw [sessionAfter, Session.enforce]
  obtain ⟨config, next, ran, configured, given, units⟩ | ⟨fault, next, ran, none, given, units⟩ :=
    run_configuration session
  · obtain ⟨table, engine, built, kept⟩ := run_tableFor_of_known configured
    rw [run_bind_of_ok session ran, run_bind_of_ok next built, run_bind_of_ok _ (run_get _),
      run_bind_of_ok _ (run_report ..)]
    refine .of_known ?_ given ?_
    · exact kept
    · rw [treeAfter_of_unreached _ (by simp [Reaches])]
      exact units
  · rw [run_bind, ran]
    exact .of_unknown none given units

/-- What every call leaves. -/
theorem leaves (call : Call) (session : Session) :
    call.Leaves session (call.sessionAfter session) := by
  cases call with
  | execute unit => exact leaves_execute session unit
  | executeMany units => exact leaves_executeOnto session {} units
  | attach unit decl => exact leaves_attach session unit decl
  | enforce unit decl unitName => exact leaves_enforce session unit decl unitName

end Call

/-! ## Histories -/

/-- A call of one of several engines. The setting is what is around the tree and the
engines at that time; its own tree and engine are not looked at. -/
structure Step where
  engine : Nat
  call : Call
  setting : Session

/-- A tree with the engines that work on it. -/
structure Workshop where
  units : List CompilationUnit
  engines : Nat → Engine

namespace Workshop

/-- The session in which a step makes its call. -/
def session (state : Workshop) (step : Step) : Session :=
  { step.setting with units := state.units, engine := state.engines step.engine }

/-- The tree and the engines after a step. -/
def after (state : Workshop) (step : Step) : Workshop :=
  let next := step.call.sessionAfter (state.session step)
  { units := next.units, engines := Function.update state.engines step.engine next.engine }

/-- The tree and the engines after a history of calls, the first call first. -/
def run (state : Workshop) (history : List Step) : Workshop :=
  history.foldl after state

/-- The configuration of an engine, once it has one. -/
def configuration? (state : Workshop) (engine : Nat) : Option Configuration :=
  (state.engines engine).configuration

/-- The calls of a history that have a configuration to work by, each with its own. -/
def made (state : Workshop) : List Step → List (Configuration × Call)
  | [] => []
  | step :: rest =>
    let next := state.after step
    match next.configuration? step.engine with
    | some config => (config, step.call) :: next.made rest
    | none => next.made rest

theorem units_after (state : Workshop) (step : Step) :
    (state.after step).units =
      match (state.after step).configuration? step.engine with
      | some config => step.call.treeAfter config state.units
      | none => state.units := by
  have own : (state.after step).configuration? step.engine =
      (step.call.sessionAfter (state.session step)).engine.configuration := by
    simp [after, configuration?]
  rw [own]
  exact (step.call.leaves (state.session step)).tree

/-- Engines keep their configurations. -/
theorem configuration?_after {state : Workshop} {engine : Nat} {config : Configuration}
    (known : state.configuration? engine = some config) (step : Step) :
    (state.after step).configuration? engine = some config := by
  by_cases own : engine = step.engine
  · subst own
    have kept := (step.call.leaves (state.session step)).keeps config known
    simpa [after, configuration?] using kept
  · simpa [after, configuration?, own] using known

theorem configuration?_run {state : Workshop} {engine : Nat} {config : Configuration}
    (known : state.configuration? engine = some config) (history : List Step) :
    (state.run history).configuration? engine = some config := by
  induction history generalizing state with
  | nil => exact known
  | cons step rest ih => exact ih (configuration?_after known step)

/-- A call that is made belongs to an engine that has its configuration in the end. -/
theorem exists_step_of_mem_made {state : Workshop} {history : List Step} {config : Configuration}
    {call : Call} (isMade : (config, call) ∈ state.made history) :
    ∃ step ∈ history, step.call = call ∧
      (state.run history).configuration? step.engine = some config := by
  induction history generalizing state with
  | nil => cases isMade
  | cons step rest ih =>
      have later : (config, call) ∈ (state.after step).made rest →
          ∃ other ∈ step :: rest, other.call = call ∧
            ((state.after step).run rest).configuration? other.engine = some config := by
        intro isLater
        obtain ⟨other, listed, same, known⟩ := ih isLater
        exact ⟨other, List.mem_cons_of_mem step listed, same, known⟩
      rw [made] at isMade
      cases known : (state.after step).configuration? step.engine with
      | none =>
          simp only [known] at isMade
          exact later isMade
      | some own =>
          simp only [known] at isMade
          rcases List.mem_cons.mp isMade with first | isLater
          · cases first
            exact ⟨step, List.mem_cons_self, rfl, configuration?_run known rest⟩
          · exact later isLater

/-- A call of an engine that was given its configuration is made. -/
theorem mem_made {state : Workshop} {history : List Step} {step : Step} (listed : step ∈ history)
    {config : Configuration} (known : state.configuration? step.engine = some config) :
    (config, step.call) ∈ state.made history := by
  induction history generalizing state with
  | nil => cases listed
  | cons first rest ih =>
      rw [made]
      rcases List.mem_cons.mp listed with same | isLater
      · subst same
        simp [configuration?_after known step]
      · have later := ih isLater (configuration?_after known first)
        split
        · exact List.mem_cons_of_mem _ later
        · exact later

/-- A history changes the tree by the calls that are made. -/
theorem units_run (state : Workshop) (history : List Step) :
    (state.run history).units =
      (state.made history).foldl (fun units made => made.2.treeAfter made.1 units) state.units := by
  induction history generalizing state with
  | nil => rfl
  | cons step rest ih =>
      have tree := state.units_after step
      rw [run, List.foldl_cons, ← run, ih, made]
      cases known : (state.after step).configuration? step.engine with
      | none => 
          simp only [known] at tree ⊢
          rw [tree]
      | some config => 
          simp only [known] at tree ⊢
          rw [tree, List.foldl_cons]

end Workshop

/-! ## What a history adds -/

/-- What calls add to the annotations of a class: the marker of the first one that
reaches it, unless the class has chosen its mode. -/
def added (calls : List (Configuration × Call)) (unitPlace : Nat) (unit : CompilationUnit)
    (declPlace : Nat) (decl : ClassDecl) : List Annotation :=
  if ChoosesMode decl then []
  else
    match calls.find? fun made => made.2.Reaches made.1 unitPlace unit declPlace decl with
    | some first => [marker first.1]
    | none => []

theorem added_of_choosesMode (calls : List (Configuration × Call)) (unitPlace : Nat)
    (unit : CompilationUnit) (declPlace : Nat) {decl : ClassDecl} (chosen : ChoosesMode decl) :
    added calls unitPlace unit declPlace decl = [] :=
  if_pos chosen

/-- Annotations of other classes do not count. -/
theorem added_revised (calls : List (Configuration × Call)) (unitPlace : Nat)
    (unit : CompilationUnit) (classes : List ClassDecl) (declPlace : Nat) (decl : ClassDecl) :
    added calls unitPlace { unit with classes } declPlace decl =
      added calls unitPlace unit declPlace decl := by
  simp only [added, Call.reaches_iff _ _ _ _ _ .rfl]

/-- The first call marks the class that it reaches. -/
theorem annotations_added_cons (first : Configuration × Call)
    (rest : List (Configuration × Call)) (unitPlace : Nat) (unit : CompilationUnit)
    (declPlace : Nat) (decl : ClassDecl) :
    let next :=
      if first.2.Reaches first.1 unitPlace unit declPlace decl then marked first.1 decl else decl
    { next with annotations := next.annotations ++ added rest unitPlace unit declPlace next } =
      { decl with
        annotations :=
          decl.annotations ++ added (first :: rest) unitPlace unit declPlace decl } := by
  by_cases chosen : ChoosesMode decl
  · simp [marked_of_choosesMode, chosen, added_of_choosesMode]
  · by_cases reached : first.2.Reaches first.1 unitPlace unit declPlace decl
    · have next : marked first.1 decl =
          { decl with annotations := decl.annotations ++ [marker first.1] } :=
        if_neg chosen
      have nothing := added_of_choosesMode rest unitPlace unit declPlace
        (choosesMode_marked first.1 decl)
      simp only [if_pos reached, nothing]
      simp [next, added, chosen, reached]
    · simp [added, chosen, reached]

/-- A series of calls gives each class at most one marker. -/
theorem foldl_treeAfter (calls : List (Configuration × Call)) (units : List CompilationUnit) :
    calls.foldl (fun units made => made.2.treeAfter made.1 units) units =
      revised (fun unitPlace unit declPlace decl =>
        { decl with
          annotations := decl.annotations ++ added calls unitPlace unit declPlace decl })
        units := by
  induction calls generalizing units with
  | nil => simp [added, revised_id]
  | cons first rest ih =>
      rw [List.foldl_cons, ih, Call.treeAfter, revised_revised]
      congr 1
      funext unitPlace unit declPlace decl
      rw [added_revised]
      exact annotations_added_cons first rest unitPlace unit declPlace decl

/-- Over any history, each class keeps its annotations and gets at most one more, and
nothing else in the tree changes. A class that has chosen its mode gets nothing, nor does
one that no call reached which was made. Any other class gets the marker of an engine
one of whose calls reached it. The calls of engines that were given a configuration are all
made. -/
theorem history_adds_at_most_one_marker (state : Workshop) (history : List Step) :
    (state.run history).units =
        revised (fun unitPlace unit declPlace decl =>
          { decl with
            annotations :=
              decl.annotations ++ added (state.made history) unitPlace unit declPlace decl })
          state.units ∧
      (∀ unitPlace unit declPlace decl,
        (added (state.made history) unitPlace unit declPlace decl = [] ∧
          (ChoosesMode decl ∨ ∀ made ∈ state.made history,
            ¬made.2.Reaches made.1 unitPlace unit declPlace decl)) ∨
        ∃ step ∈ history, ∃ config,
          (state.run history).configuration? step.engine = some config ∧
            step.call.Reaches config unitPlace unit declPlace decl ∧ ¬ChoosesMode decl ∧
            added (state.made history) unitPlace unit declPlace decl = [marker config]) ∧
      ∀ step ∈ history, ∀ config, state.configuration? step.engine = some config →
        (config, step.call) ∈ state.made history := by
  refine ⟨?_, ?_, fun step listed config known => Workshop.mem_made listed known⟩
  · rw [Workshop.units_run, foldl_treeAfter]
  · intro unitPlace unit declPlace decl
    by_cases chosen : ChoosesMode decl
    · exact .inl ⟨added_of_choosesMode _ unitPlace unit declPlace chosen, .inl chosen⟩
    · rw [added, if_neg chosen]
      cases first : (state.made history).find? fun made =>
          made.2.Reaches made.1 unitPlace unit declPlace decl with
      | none =>
          have unreached := List.find?_eq_none.mp first
          exact .inl ⟨rfl, .inr fun made isMade reached =>
            unreached made isMade (decide_eq_true reached)⟩
      | some made =>
          have reached := List.find?_some first
          rw [decide_eq_true_eq] at reached
          obtain ⟨step, listed, same, known⟩ :=
            Workshop.exists_step_of_mem_made (List.mem_of_find?_eq_some first)
          rw [← same] at reached
          exact .inr ⟨step, listed, made.1, known, reached, chosen, rfl⟩

/-- A call that attaches the marker does so to a class on the whitelist of its engine,
the only one. -/
theorem attach_marks_exempt_class :
    let config : Configuration := { classWhitelist := ["Foo"] }
    let decl : ClassDecl := { name := "a.Foo" }
    let unit : CompilationUnit := { targetDirectory := some "out", classes := [decl] }
    let state : Workshop :=
      { units := [unit], engines := fun _ => { configuration := some config } }
    let history : List Step := [{ engine := 0, call := .attach 0 0, setting := {} }]
    IsExempt config decl ∧
      (∀ engine, (state.run history).configuration? engine = some config) ∧
      (state.run history).units =
        [{ unit with classes := [{ decl with annotations := [marker config] }] }] := by
  intro config decl unit state history
  refine ⟨?_, ?_, ?_⟩
  · decide
  · intro engine
    exact Workshop.configuration?_run rfl history
  · rfl

end CompilePolicy

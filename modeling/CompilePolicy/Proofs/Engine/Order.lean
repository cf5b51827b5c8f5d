import CompilePolicy.Proofs.Engine.Run

/-!
# The order of units

An engine that has found its configuration and its rules keeps both, and a walk writes to
no unit but its own. So the walk of a unit gives the same wherever it comes among the walks
of other units, as long as no class is in two of them, and a run over the units in another
order gives the same blocks in that order. An engine that finds no configuration finds none
in any order.
-/

namespace CompilePolicy

open Conventions Policy

/-- No two of the units in some places share a class. Units in different places do not, so
a place comes again only if there is no class in its unit. -/
def ShareNoClass (units : List CompilationUnit) (places : List Nat) : Prop :=
  places.Pairwise fun first second => first = second → (units.getD first {}).classes = []

theorem ShareNoClass.perm {units : List CompilationUnit} {places others : List Nat}
    (apart : ShareNoClass units places) (reordered : places.Perm others) :
    ShareNoClass units others := by
  refine (reordered.pairwise_iff ?_).mp apart
  intro first second empty same
  rw [same]
  exact same ▸ empty same.symm

/-! ## Walks in another order -/

namespace Policy

theorem unitAfter_of_no_classes (config : Configuration) {unit : CompilationUnit}
    (none : unit.classes = []) : unitAfter config unit = unit := by
  unfold unitAfter
  split
  · rfl
  · rw [none, List.map_nil, ← none]

/-- A walk leaves the units in all places but its own, and there a unit without classes. -/
theorem getD_set_unitAfter (config : Configuration) (units : List CompilationUnit)
    {walked place : Nat} (apart : walked = place → (units.getD walked {}).classes = []) :
    (units.set walked (unitAfter config (units.getD walked {}))).getD place {} =
      units.getD place {} := by
  by_cases same : walked = place
  · rw [unitAfter_of_no_classes config (apart same), set_getD]
  · rw [List.getD_eq_getElem?_getD, List.getElem?_set_ne same, ← List.getD_eq_getElem?_getD]

/-- Where no class is in two units, each walk is that of the unit as it was before the first
one. -/
theorem walksAt_of_shareNoClass (config : Configuration) (rules : RuleTable)
    {units : List CompilationUnit} {places : List Nat} (apart : ShareNoClass units places) :
    walksAt config rules units places =
      places.map fun place => walkUnit config rules (units.getD place {}) := by
  induction places generalizing units with
  | nil => rfl
  | cons first rest ih =>
      obtain ⟨fromFirst, others⟩ := List.pairwise_cons.mp apart
      -- The first walk writes to its own place, which comes again only without classes.
      have kept : ∀ place ∈ rest,
          (units.set first (unitAfter config (units.getD first {}))).getD place {} =
            units.getD place {} :=
        fun place listed => getD_set_unitAfter config units (fromFirst place listed)
      have apartLater : ShareNoClass (units.set first (unitAfter config (units.getD first {})))
          rest := by
        refine others.imp_of_mem fun listed _ none same => ?_
        rw [kept _ listed]
        exact none same
      rw [walksAt, unit_walkUnit, ih apartLater, List.map_cons]
      congr 1
      apply List.map_congr_left
      intro place listed
      rw [kept place listed]

end Policy

/-- The tree after a run depends on which units are walked, and not on their order. -/
theorem Call.treeAfter_executeMany_perm (config : Configuration) (units : List CompilationUnit)
    {places others : List Nat} (reordered : places.Perm others) :
    (executeMany places).treeAfter config units = (executeMany others).treeAfter config units := by
  have same : ∀ unitPlace unit declPlace decl,
      (executeMany places).Reaches config unitPlace unit declPlace decl ↔
        (executeMany others).Reaches config unitPlace unit declPlace decl := by
    intro unitPlace unit declPlace decl
    simp only [Reaches, reordered.mem_iff]
  simp only [treeAfter, same]

/-! ## Engines that find their configuration -/

namespace Session

/-- An engine that finds its configuration walks as one that has it, with the rules that it
has or would build. -/
theorem exists_knows_of_found {session : Session} {config : Configuration}
    (found : session.found = .ok config) :
    ∃ begun : Session, begun.Knows config (session.rulesUnder config) ∧
      begun.units = session.units ∧
      ∀ place, session.run (execute place) = begun.run (execute place) := by
  have foundLater : Session.found { session with clock := session.clock.advance } = .ok config :=
    found
  obtain ⟨resolver, records, ran⟩ := run_configuration_of_found foundLater
  let begun : Session := { session with
    resolver, records
    engine := { session.engine with configuration := some config } }
  have configured : Session.run { begun with clock := begun.clock.advance } configuration =
      (.ok config, { begun with clock := begun.clock.advance }) :=
    run_configuration_of_known rfl
  refine ⟨begun, ⟨rfl, rfl⟩, rfl, fun place => ?_⟩
  rw [execute, run_bind_of_ok session (run_readClock session), run_bind_of_ok _ ran,
    run_bind_of_ok begun (run_readClock begun), run_bind_of_ok _ configured]

/-! ## One by one -/

/-- Walks the units in some places one by one, whatever each walk gives: what they give, and
the session after them. -/
def executeEach (session : Session) : List Nat → List (Except SourceFault Outcome) × Session
  | [] => ([], session)
  | place :: rest =>
    let first := session.run (execute place)
    let others := first.2.executeEach rest
    (first.1 :: others.1, others.2)

/-- An engine that knows its configuration walks the units one by one, each on the tree that
the walks before left. -/
theorem Knows.executeEach {config : Configuration} {rules : RuleTable} {session : Session}
    (knows : session.Knows config rules) (places : List Nat) :
    ∃ outcomes : List Outcome, (session.executeEach places).1 = outcomes.map .ok ∧
      outcomes.map Outcome.untimed =
        (walksAt config rules session.units places).map (·.outcome) ∧
      (session.executeEach places).2.units =
        (Call.executeMany places).treeAfter config session.units := by
  induction places generalizing session with
  | nil =>
      refine ⟨[], rfl, rfl, ?_⟩
      rw [Call.treeAfter_of_unreached _ (by simp [Call.Reaches]), Session.executeEach]
  | cons place rest ih =>
      obtain ⟨outcome, next, ran, still, same, placed, -⟩ := knows.run_execute place
      obtain ⟨outcomes, each, sameLater, tree⟩ := ih still
      simp only [Session.executeEach, ran]
      refine ⟨outcome :: outcomes, ?_, ?_, ?_⟩
      · rw [each, List.map_cons]
      · rw [List.map_cons, same, sameLater, placed, walksAt, List.map_cons]
      · rw [tree, placed, unit_walkUnit, ← Call.treeAfter_execute, Call.treeAfter_executeMany]

/-- An engine that finds its configuration walks units that share no class as if each were
the first. -/
theorem executeEach_of_found {session : Session} {config : Configuration} {places : List Nat}
    (found : session.found = .ok config) (apart : ShareNoClass session.units places) :
    ∃ outcomes : List Outcome, (session.executeEach places).1 = outcomes.map .ok ∧
      outcomes.map Outcome.untimed =
        places.map (fun place =>
          (walkUnit config (session.rulesUnder config) (session.units.getD place {})).outcome) ∧
      (session.executeEach places).2.units =
        (Call.executeMany places).treeAfter config session.units := by
  obtain ⟨begun, knows, units, same⟩ := exists_knows_of_found found
  have each := knows.executeEach places
  rw [units, walksAt_of_shareNoClass config _ apart, List.map_map] at each
  cases places with
  | nil =>
      refine ⟨[], rfl, rfl, ?_⟩
      rw [Call.treeAfter_of_unreached _ (by simp [Call.Reaches]), executeEach]
  | cons place rest =>
      -- Only the first walk starts from a session without the configuration.
      have begins : session.executeEach (place :: rest) = begun.executeEach (place :: rest) := by
        rw [executeEach, executeEach, same]
      rw [begins]
      exact each

/-- An engine that finds no configuration fails on every unit and leaves the tree. -/
theorem executeEach_of_unfound {session : Session} {fault : SourceFault}
    (unfound : session.found = .error fault) (places : List Nat) :
    (session.executeEach places).1 = places.map (fun _ => .error fault) ∧
      (session.executeEach places).2.units = session.units := by
  induction places generalizing session with
  | nil => exact ⟨rfl, rfl⟩
  | cons place rest ih =>
      have still : (session.run (execute place)).2.found = .error fault := by
        rw [run_execute_of_unfound unfound place]
        exact unfound
      obtain ⟨each, tree⟩ := ih still
      rw [run_execute_of_unfound unfound place] at each tree
      simp only [executeEach, run_execute_of_unfound unfound place]
      exact ⟨by rw [each, List.map_cons], tree⟩

/-! ## Together -/

/-- A run merges what the walks give one by one. -/
theorem run_executeOnto_of_each {session : Session} {places : List Nat} {outcomes : List Outcome}
    (each : (session.executeEach places).1 = outcomes.map .ok) (outcome : Outcome) :
    session.run (executeOnto outcome places) =
      (.ok (outcomes.foldl Outcome.merge outcome), (session.executeEach places).2) := by
  induction places generalizing session outcomes outcome with
  | nil =>
      rw [executeEach, eq_comm, List.map_eq_nil_iff] at each
      rw [each]
      exact run_pure session outcome
  | cons place rest ih =>
      obtain ⟨first, others, rfl, ran, later⟩ := List.map_eq_cons_iff.mp each.symm
      have step : session.run (execute place) = (.ok first, (session.run (execute place)).2) :=
        Prod.ext ran.symm rfl
      rw [executeOnto, run_bind_of_ok session step, ih later.symm]
      rfl

end Session

/-- An outcome has the lists of other outcomes one after another: all lists but those of the
rules. -/
structure Outcome.IsMadeOf (outcome : Outcome) (blocks : List Outcome) : Prop where
  diagnostics : outcome.diagnostics = blocks.flatMap (·.diagnostics)
  processed : outcome.unitsProcessed = blocks.flatMap (·.unitsProcessed)
  skipped : outcome.unitsSkipped = blocks.flatMap (·.unitsSkipped)
  checked : outcome.classesChecked = blocks.flatMap (·.classesChecked)
  exempt : outcome.classesExempt = blocks.flatMap (·.classesExempt)
  annotated : outcome.classesAnnotated = blocks.flatMap (·.classesAnnotated)

/-- Two outcomes are made of the same outcomes in some orders, and name the same rules. -/
structure Outcome.AgreesInBlocks (one other : Outcome) (blocks reordered : List Outcome) :
    Prop where
  same : blocks.Perm reordered
  first : one.IsMadeOf blocks
  second : other.IsMadeOf reordered
  ran : ∀ id, id ∈ one.rulesRun ↔ id ∈ other.rulesRun
  failed : ∀ id, id ∈ one.rulesFailed ↔ id ∈ other.rulesFailed

namespace Outcome

/-- Merging puts outcomes one after another. -/
theorem isMadeOf_foldl_merge (outcomes : List Outcome) :
    (outcomes.foldl merge {}).IsMadeOf (outcomes.map untimed) := by
  constructor <;> rw [List.flatMap_map] <;> exact foldl_merge_append (fun _ _ => rfl) outcomes {}

theorem mem_rulesRun_foldl_merge {outcomes : List Outcome} {id : String} :
    id ∈ (outcomes.foldl merge {}).rulesRun ↔
      ∃ block ∈ outcomes.map untimed, id ∈ block.rulesRun := by
  rw [rulesRun_foldl_merge, mem_addMissing, ← List.mem_flatMap, List.flatMap_map]
  exact or_iff_right List.not_mem_nil

theorem mem_rulesFailed_foldl_merge {outcomes : List Outcome} {id : String} :
    id ∈ (outcomes.foldl merge {}).rulesFailed ↔
      ∃ block ∈ outcomes.map untimed, id ∈ block.rulesFailed := by
  rw [rulesFailed_foldl_merge, mem_addMissing, ← List.mem_flatMap, List.flatMap_map]
  exact or_iff_right List.not_mem_nil

/-- Outcomes that are merged in another order, and took another time each, agree. -/
theorem agreesInBlocks_foldl_merge {outcomes others : List Outcome}
    (reordered : (outcomes.map untimed).Perm (others.map untimed)) :
    (outcomes.foldl merge {}).AgreesInBlocks (others.foldl merge {})
      (outcomes.map untimed) (others.map untimed) where
  same := reordered
  first := isMadeOf_foldl_merge outcomes
  second := isMadeOf_foldl_merge others
  ran := fun id => by simp only [mem_rulesRun_foldl_merge, reordered.mem_iff]
  failed := fun id => by simp only [mem_rulesFailed_foldl_merge, reordered.mem_iff]

end Outcome

namespace Session

/-- Walking the units in some places gives these results one by one, but for the time, and
leaves this tree, also when they are walked in one run. -/
structure WalksTo (session : Session) (places : List Nat)
    (results : List (Except SourceFault Outcome)) (tree : List CompilationUnit) : Prop where
  each : (session.executeEach places).1.map (Except.map Outcome.untimed) = results
  treeOfEach : (session.executeEach places).2.units = tree
  treeOfRun : (session.run (executeMany places)).2.units = tree

variable {session : Session} {places : List Nat}

/-- An engine that finds its configuration walks units that share no class in one run as one
by one. -/
theorem walksTo_of_found {config : Configuration} (found : session.found = .ok config)
    (apart : ShareNoClass session.units places) :
    ∃ outcomes : List Outcome,
      outcomes.map Outcome.untimed = places.map (fun place =>
        (walkUnit config (session.rulesUnder config) (session.units.getD place {})).outcome) ∧
      session.WalksTo places ((outcomes.map Outcome.untimed).map .ok)
        ((Call.executeMany places).treeAfter config session.units) ∧
      (session.run (executeMany places)).1 = .ok (outcomes.foldl Outcome.merge {}) := by
  obtain ⟨outcomes, each, same, tree⟩ := executeEach_of_found found apart
  have ran := run_executeOnto_of_each each {}
  refine ⟨outcomes, same, ⟨?_, tree, ?_⟩, ?_⟩
  · rw [each, List.map_map, List.map_map]
    rfl
  · rw [executeMany, ran, tree]
  · rw [executeMany, ran]

/-- An engine that finds its configuration runs over any units. -/
theorem run_executeMany_of_found {config : Configuration} (found : session.found = .ok config)
    (places : List Nat) :
    ∃ outcome next, session.run (executeMany places) = (.ok outcome, next) := by
  cases places with
  | nil => exact ⟨{}, session, rfl⟩
  | cons place rest =>
      obtain ⟨begun, knows, -, same⟩ := exists_knows_of_found found
      obtain ⟨outcome, next, ran, -⟩ := knows.run_executeOnto {} (place :: rest)
      rw [executeOnto, run_bind, ← same, ← run_bind] at ran
      exact ⟨outcome, next, ran⟩

/-- An engine that finds no configuration fails on the first unit of a run. -/
theorem run_executeMany_cons_of_unfound {fault : SourceFault}
    (unfound : session.found = .error fault) (place : Nat) (rest : List Nat) :
    session.run (executeMany (place :: rest)) =
      (.error fault, Session.reread { session with clock := session.clock.advance }) := by
  rw [executeMany, executeOnto, run_bind, run_execute_of_unfound unfound place]

theorem run_executeMany_of_unfound {fault : SourceFault} (unfound : session.found = .error fault)
    (some : places ≠ []) :
    ∃ next, session.run (executeMany places) = (.error fault, next) ∧
      next.units = session.units := by
  cases places with
  | nil => exact absurd rfl some
  | cons place rest => exact ⟨_, run_executeMany_cons_of_unfound unfound place rest, rfl⟩

theorem walksTo_of_unfound {fault : SourceFault} (unfound : session.found = .error fault)
    (places : List Nat) :
    session.WalksTo places (places.map fun _ => .error fault) session.units := by
  obtain ⟨each, tree⟩ := executeEach_of_unfound unfound places
  refine ⟨?_, tree, ?_⟩
  · rw [each, List.map_map]
    rfl
  · cases places with
    | nil => rfl
    | cons place rest =>
        obtain ⟨next, ran, units⟩ :=
          run_executeMany_of_unfound unfound (List.cons_ne_nil place rest)
        rw [ran, units]

end Session

/-- The order in which units that share no class are walked does not matter, whether the
engine has its configuration or has yet to find it. Each unit gets the same outcome in both
orders, that of a walk of the unit as it was at first, and the tree is the same in the end.
The outcomes of the two runs are made of these outcomes in the one order and in the other.
Where no configuration is to be found, every walk fails in the same way. -/
theorem order_of_units_does_not_matter (session : Session) {places others : List Nat}
    (reordered : places.Perm others) (apart : ShareNoClass session.units places) :
    match session.found with
    | .ok config =>
      let block := fun place =>
        (walkUnit config (session.rulesUnder config) (session.units.getD place {})).outcome
      ∃ (tree : List CompilationUnit) (one other : Outcome),
        session.WalksTo places (places.map fun place => .ok (block place)) tree ∧
        session.WalksTo others (others.map fun place => .ok (block place)) tree ∧
        (session.run (Session.executeMany places)).1 = .ok one ∧
        (session.run (Session.executeMany others)).1 = .ok other ∧
        one.AgreesInBlocks other (places.map block) (others.map block)
    | .error fault =>
      session.WalksTo places (places.map fun _ => .error fault) session.units ∧
        session.WalksTo others (others.map fun _ => .error fault) session.units ∧
        (places ≠ [] → (session.run (Session.executeMany places)).1 = .error fault ∧
          (session.run (Session.executeMany others)).1 = .error fault) := by
  cases found : session.found with
  | ok config =>
      obtain ⟨outcomes, blocks, walks, ran⟩ := Session.walksTo_of_found found apart
      obtain ⟨later, blocksLater, walksLater, ranLater⟩ :=
        Session.walksTo_of_found found (apart.perm reordered)
      rw [blocks, List.map_map] at walks
      rw [blocksLater, List.map_map, ← Call.treeAfter_executeMany_perm config _ reordered]
        at walksLater
      refine ⟨_, _, _, walks, walksLater, ran, ranLater, ?_⟩
      rw [← blocks, ← blocksLater]
      apply Outcome.agreesInBlocks_foldl_merge
      rw [blocks, blocksLater]
      exact reordered.map _
  | error fault =>
      refine ⟨Session.walksTo_of_unfound found places, Session.walksTo_of_unfound found others,
        fun some => ?_⟩
      obtain ⟨next, ran, -⟩ := Session.run_executeMany_of_unfound found some
      have someToo : others ≠ [] := fun none => some (none ▸ reordered).eq_nil
      obtain ⟨last, ranToo, -⟩ := Session.run_executeMany_of_unfound found someToo
      exact ⟨by rw [ran], by rw [ranToo]⟩

/-- An engine that has yet to find its configuration walks two units in either order. -/
theorem order_of_units_does_not_matter_at_two_units :
    let first : CompilationUnit :=
      { name := "A.groovy", targetDirectory := some "out",
        classes := [{ name := "p.A", fields := [{ name := "x", isDynamic := true }] }] }
    let second : CompilationUnit :=
      { name := "B.groovy", targetDirectory := some "out", classes := [{ name := "p.B" }] }
    let session : Session :=
      { units := [first, second]
        origin := .given [(Properties.console, "x"), (Properties.defAllowed, "false")] }
    [0, 1].Perm [1, 0] ∧ ShareNoClass session.units [0, 1] ∧
      ∃ tree one other,
        (session.run (Session.executeMany [0, 1])).1 = .ok one ∧
        (session.run (Session.executeMany [1, 0])).1 = .ok other ∧
        one.unitsProcessed = ["A.groovy", "B.groovy"] ∧
        other.unitsProcessed = ["B.groovy", "A.groovy"] ∧
        (session.run (Session.executeMany [0, 1])).2.units = tree ∧
        (session.run (Session.executeMany [1, 0])).2.units = tree := by
  intro first second session
  have reordered : [0, 1].Perm [1, 0] := .swap 1 0 []
  have apart : ShareNoClass session.units [0, 1] := by simp [ShareNoClass]
  have found : session.found =
      .ok { scriptsExempt := false, dynamicTypingAllowed := false, source := "console" } := by
    decide
  have same := order_of_units_does_not_matter session reordered apart
  rw [found] at same
  obtain ⟨tree, one, other, walks, walksToo, ran, ranToo, blocks⟩ := same
  refine ⟨reordered, apart, tree, one, other, ran, ranToo, ?_, ?_, walks.treeOfRun,
    walksToo.treeOfRun⟩
  · rw [blocks.first.processed]
    decide
  · rw [blocks.second.processed]
    decide

end CompilePolicy

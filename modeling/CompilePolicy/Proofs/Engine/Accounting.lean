import CompilePolicy.Proofs.Engine.Failure

/-!
# Accounting for walks

An outcome accounts for the walks that it is made of: each unit and each class of a walked
unit stands in one list, and what is reported was given by a rule that ran, in its check of
a class that was checked. This holds of one walk and is kept when outcomes are merged, so it
holds of whatever runs give and however their outcomes are put together. All that is needed
of the rules is that no id is there twice and that they are built in or were registered,
which registering keeps.

What a report names is another matter, since a walk fills in the unit and leaves the rest to
the rule. A report is sure to name a class and a rule that are listed if the rules attribute
their diagnostics, and not otherwise.
-/

namespace CompilePolicy

/-! ## Accounts -/

/-- What there is to account for in a walk: the unit, whether it is walked or skipped, and
its classes. -/
structure WalkEntry where
  unitName : String
  isWalked : Bool
  classes : List String
deriving DecidableEq, Repr

/-- The entry of a unit that is to be walked. -/
def WalkEntry.of (config : Configuration) (unit : CompilationUnit) : WalkEntry :=
  ⟨unit.name, decide ¬Policy.IsSkipped config unit, unit.classes.map (·.name)⟩

/-- A rule gives a diagnostic in its check of some node of a class. Only the unit has been
filled in since. -/
def Rule.Gives (rule : Rule) (owner : ClassDecl) (diagnostic : Diagnostic) : Prop :=
  ∃ config, ∃ node ∈ owner.nodes, rule.scope = node.scope ∧
    ∃ given, rule.check config node owner = .ok given ∧
      ∃ own ∈ given, diagnostic = { own with unit := diagnostic.unit }

/-- An outcome lists the unit, the class and the rule that a diagnostic names. -/
structure Outcome.Covers (outcome : Outcome) (diagnostic : Diagnostic) : Prop where
  unit : diagnostic.unit ∈ outcome.unitsProcessed
  owner : diagnostic.owner ∈ outcome.classesChecked
  rule : diagnostic.ruleId ∈ outcome.rulesRun

/-- An outcome accounts for walks under rules that are all known. -/
structure Outcome.Accounts (outcome : Outcome) (known : Set Rule) (walks : List WalkEntry) :
    Prop where
  processed : outcome.unitsProcessed = (walks.filter (·.isWalked)).map (·.unitName)
  skipped : outcome.unitsSkipped = (walks.filter (!·.isWalked)).map (·.unitName)
  classes : (outcome.classesChecked ++ outcome.classesExempt).Perm
    ((walks.filter (·.isWalked)).flatMap (·.classes))
  annotated : outcome.classesAnnotated.Sublist outcome.classesChecked
  reports : ∀ diagnostic ∈ outcome.diagnostics, diagnostic.unit ∈ outcome.unitsProcessed ∧
    ∃ rule ∈ known, rule.id ∈ outcome.rulesRun ∧
      ∃ owner : ClassDecl, owner.name ∈ outcome.classesChecked ∧ rule.Gives owner diagnostic
  failures : ∀ id ∈ outcome.rulesFailed, id ∈ outcome.rulesRun
  distinctRun : outcome.rulesRun.Nodup
  distinctFailed : outcome.rulesFailed.Nodup
  idle : outcome.unitsProcessed = [] →
    outcome.classesChecked = [] ∧ outcome.classesExempt = [] ∧ outcome.classesAnnotated = [] ∧
      outcome.diagnostics = [] ∧ outcome.rulesRun = [] ∧ outcome.rulesFailed = []

namespace Outcome.Accounts

variable {first second : Outcome} {known : Set Rule} {walks others : List WalkEntry}

/-- An outcome of no walk accounts for none. -/
theorem nil : Accounts {} known [] where
  processed := rfl
  skipped := rfl
  classes := .nil
  annotated := .slnil
  reports _ listed := nomatch listed
  failures _ listed := nomatch listed
  distinctRun := .nil
  distinctFailed := .nil
  idle _ := ⟨rfl, rfl, rfl, rfl, rfl, rfl⟩

/-- The time of walks is not accounted for. -/
theorem untimed_iff : first.untimed.Accounts known walks ↔ first.Accounts known walks :=
  ⟨fun ⟨processed, skipped, classes, annotated, reports, failures, run, failed, idle⟩ =>
      ⟨processed, skipped, classes, annotated, reports, failures, run, failed, idle⟩,
    fun ⟨processed, skipped, classes, annotated, reports, failures, run, failed, idle⟩ =>
      ⟨processed, skipped, classes, annotated, reports, failures, run, failed, idle⟩⟩

theorem of_untimed_eq (accounts : first.Accounts known walks)
    (same : second.untimed = first.untimed) : second.Accounts known walks := by
  rwa [← untimed_iff, same, untimed_iff]

/-- Merged outcomes account for the walks of both. -/
theorem merge (one : first.Accounts known walks) (other : second.Accounts known others) :
    (first.merge second).Accounts known (walks ++ others) := by
  constructor
  · simp [Outcome.merge, one.processed, other.processed]
  · simp [Outcome.merge, one.skipped, other.skipped]
  · rw [List.filter_append, List.flatMap_append]
    have both := one.classes.append other.classes
    rw [List.perm_iff_count] at both ⊢
    intro name
    have counted := both name
    simp only [Outcome.merge, List.count_append] at counted ⊢
    omega
  · exact one.annotated.append other.annotated
  · intro diagnostic listed
    rcases List.mem_append.mp listed with old | new
    · obtain ⟨unit, rule, isKnown, ran, owner, isChecked, gives⟩ := one.reports diagnostic old
      exact ⟨List.mem_append_left _ unit, rule, isKnown, mem_addMissing.mpr (.inl ran), owner,
        List.mem_append_left _ isChecked, gives⟩
    · obtain ⟨unit, rule, isKnown, ran, owner, isChecked, gives⟩ := other.reports diagnostic new
      exact ⟨List.mem_append_right _ unit, rule, isKnown, mem_addMissing.mpr (.inr ran), owner,
        List.mem_append_right _ isChecked, gives⟩
  · intro id listed
    rw [Outcome.merge, mem_addMissing] at listed ⊢
    exact listed.imp (one.failures id) (other.failures id)
  · exact nodup_addMissing one.distinctRun _
  · exact nodup_addMissing one.distinctFailed _
  · intro none
    obtain ⟨noneHere, noneThere⟩ := List.append_eq_nil_iff.mp none
    obtain ⟨checked, exempt, annotated, reports, run, failed⟩ := one.idle noneHere
    obtain ⟨checked', exempt', annotated', reports', run', failed'⟩ := other.idle noneThere
    simp [Outcome.merge, addMissing, *]

/-- If all rules attribute their diagnostics, what is reported names what is listed. -/
theorem covers (accounts : first.Accounts known walks)
    (attributes : ∀ rule ∈ known, rule.Attributes) :
    ∀ diagnostic ∈ first.diagnostics, first.Covers diagnostic := by
  intro diagnostic listed
  obtain ⟨unit, rule, isKnown, ran, owner, isChecked, gives⟩ := accounts.reports diagnostic listed
  obtain ⟨config, node, -, -, given, found, own, isOwn, same⟩ := gives
  obtain ⟨named, ownerNamed⟩ := attributes rule isKnown config node owner given found own isOwn
  have ruleId : diagnostic.ruleId = rule.id := by
    rw [same]
    exact named
  have ownerName : diagnostic.owner = owner.name := by
    rw [same]
    exact ownerNamed
  exact ⟨unit, ownerName ▸ isChecked, ruleId ▸ ran⟩

end Outcome.Accounts

/-! ## Known rules -/

/-- Rules are drawn from known ones: each is one of them, and no id is there twice. -/
structure AreDrawn (known : Set Rule) (rules : List Rule) : Prop where
  distinct : (rules.map (·.id)).Nodup
  known : ∀ rule ∈ rules, rule ∈ known

namespace Registry

variable {registry : Registry} {known : Set Rule}

theorem areDrawn_handIn (drawn : AreDrawn known registry.rules) {call : Registration}
    (isKnown : ∀ rule, call.rule? = some rule → rule ∈ known) :
    AreDrawn known (registry.handIn call).rules where
  distinct := by
    rw [handIn_eq]
    cases call.rule? with
    | none => exact drawn.distinct
    | some rule =>
        change ((replace rule registry.rules).map (·.id)).Nodup
        rw [ids_replace]
        split
        · exact drawn.distinct
        · rename_i new
          exact List.nodup_append.mpr ⟨drawn.distinct, List.pairwise_singleton _ _, by grind⟩
  known rule listed := (mem_of_mem_handIn listed).elim (drawn.known rule) (isKnown rule)

theorem areDrawn_activeRules (drawn : AreDrawn known registry.rules) (config : Configuration)
    (skipped : List String) : AreDrawn known (registry.activeRules config skipped).rules where
  distinct :=
    (((perm_arrange registry.rules).map _).nodup_iff.mpr drawn.distinct).sublist
      (List.filter_sublist.map _)
  known rule listed := drawn.known rule (mem_of_mem_activeRules listed)

end Registry

/-! ## One walk -/

namespace Policy

variable {config : Configuration} {rules : RuleTable} {unit : CompilationUnit} {known : Set Rule}

/-- A check is made by a rule of the table, at a node of its scope in a class that is
checked. -/
theorem mem_unitAttempts {attempt : Attempt}
    (made : attempt ∈ unitAttempts config rules.rules unit) :
    attempt.unitName = unit.name ∧ attempt.rule ∈ rules.rules ∧
      attempt.node ∈ attempt.owner.nodes ∧ attempt.rule.scope = attempt.node.scope ∧
      attempt.owner.name ∈ (unit.classes.filter (¬IsExempt config ·)).map (·.name) := by
  simp only [unitAttempts, List.mem_flatMap, List.mem_map] at made
  obtain ⟨decl, isChecked, node, inClass, rule, inScope, rfl⟩ := made
  obtain ⟨listed, scope⟩ := List.mem_filter.mp inScope
  refine ⟨rfl, listed, inClass, of_decide_eq_true scope, ?_⟩
  rw [name_marked]
  exact List.mem_map_of_mem isChecked

/-- What is reported in a unit names it, and a rule that runs gave it in its check of a
class that is checked. -/
theorem mem_reported_unitResults (drawn : AreDrawn known rules.rules) {diagnostic : Diagnostic}
    (listed : diagnostic ∈ reported (unitResults config rules unit)) :
    diagnostic.unit = unit.name ∧ ∃ rule ∈ known, rule.id ∈ activeIds config rules ∧
      ∃ owner : ClassDecl,
        owner.name ∈ (unit.classes.filter (¬IsExempt config ·)).map (·.name) ∧
          rule.Gives owner diagnostic := by
  cases active : config.enforcementActive with
  | false =>
      rw [unitResults_of_inactive active] at listed
      cases listed
  | true =>
      rw [unitResults_of_active active, reported_map_result] at listed
      obtain ⟨attempt, made, isGiven⟩ := List.mem_flatMap.mp listed
      obtain ⟨unitName, runs, inClass, scope, isChecked⟩ := mem_unitAttempts made
      obtain ⟨given, found, own, isOwn, rfl⟩ := Attempt.mem_given isGiven
      rw [activeIds, if_pos active]
      exact ⟨unitName, attempt.rule, drawn.known _ runs, List.mem_map_of_mem runs, attempt.owner,
        isChecked, config, attempt.node, inClass, scope, given, found, own, isOwn, rfl⟩

theorem mem_failed_unitResults {failure : RuleFailure}
    (listed : failure ∈ failed (unitResults config rules unit)) :
    failure.ruleId ∈ activeIds config rules := by
  cases active : config.enforcementActive with
  | false =>
      rw [unitResults_of_inactive active] at listed
      cases listed
  | true =>
      rw [unitResults_of_active active, failed_map_result] at listed
      obtain ⟨attempt, made, fails⟩ := List.mem_filterMap.mp listed
      obtain ⟨-, runs, -⟩ := mem_unitAttempts made
      rw [activeIds, if_pos active, Attempt.ruleId_of_failure? fails]
      exact List.mem_map_of_mem runs

/-- The outcome of one walk accounts for it. -/
theorem accounts_walkUnit (config : Configuration) (drawn : AreDrawn known rules.rules)
    (unit : CompilationUnit) :
    (walkUnit config rules unit).outcome.Accounts known [.of config unit] := by
  rw [outcome_walkUnit]
  by_cases skips : IsSkipped config unit
  · rw [if_pos skips]
    constructor <;> simp [WalkEntry.of, skips]
  · rw [if_neg skips]
    constructor
    · simp [WalkEntry.of, skips]
    · simp [WalkEntry.of, skips]
    · have parted := List.filter_append_perm (fun decl => decide ¬IsExempt config decl) unit.classes
      have whole : [WalkEntry.of config unit].filter (·.isWalked) = [.of config unit] := by
        simp [WalkEntry.of, skips]
      rw [whole, List.flatMap_singleton]
      simpa [WalkEntry.of] using parted.map (·.name)
    · exact List.filter_sublist.map _
    · intro diagnostic listed
      obtain ⟨unitName, reports⟩ := mem_reported_unitResults drawn listed
      exact ⟨List.mem_singleton.mpr unitName, reports⟩
    · intro id listed
      simp only [mem_addMissing, List.not_mem_nil, false_or, List.mem_map] at listed
      obtain ⟨failure, listed, rfl⟩ := listed
      exact mem_failed_unitResults listed
    · dsimp only
      unfold activeIds
      split
      · exact drawn.distinct
      · exact .nil
    · exact nodup_addMissing .nil _
    · intro none
      cases none

/-- A unit that was walked before has the same to account for. -/
theorem entry_unitAfter (config : Configuration) (unit : CompilationUnit) :
    WalkEntry.of config (unitAfter config unit) = .of config unit := by
  have kept : ∀ decl : ClassDecl,
      (if IsExempt config decl then decl else marked config decl).name = decl.name := by
    intro decl
    split <;> simp
  have names : (unitAfter config unit).classes.map (·.name) = unit.classes.map (·.name) := by
    unfold unitAfter
    split
    · rfl
    · simp [kept]
  have named : (unitAfter config unit).name = unit.name := by
    unfold unitAfter
    split <;> rfl
  simp only [WalkEntry.of, isSkipped_unitAfter, names, named]

/-- The walks of a run are accounted for one after another. -/
theorem accounts_walksAt (config : Configuration) (drawn : AreDrawn known rules.rules)
    {outcome : Outcome} {walks : List WalkEntry} (accounts : outcome.Accounts known walks)
    (units : List CompilationUnit) (places : List Nat) :
    (((walksAt config rules units places).map (·.outcome)).foldl Outcome.merge outcome).Accounts
      known (walks ++ places.map fun place => .of config (units.getD place {})) := by
  induction places generalizing outcome walks units with
  | nil => simpa [walksAt] using accounts
  | cons place rest ih =>
      have one := accounts.merge (accounts_walkUnit config drawn (units.getD place {}))
      have all := ih one (units.set place (unitAfter config (units.getD place {})))
      rw [walksAt, List.map_cons, List.foldl_cons, unit_walkUnit]
      simp only [reading_set_unitAfter config (entry_unitAfter config)] at all
      simpa using all

end Policy

/-! ## Hosts of known rules -/

namespace Session

/-- The registered rules and those that the engine has built are drawn from known ones. -/
structure DrawsFrom (known : Set Rule) (session : Session) : Prop where
  registered : AreDrawn known session.registry.rules
  built : ∀ table, session.engine.table = some table → AreDrawn known table.rules

variable {known : Set Rule} {session next : Session} {config : Configuration}

theorem DrawsFrom.rulesUnder (draws : session.DrawsFrom known) (config : Configuration) :
    AreDrawn known (session.rulesUnder config).rules := by
  unfold Session.rulesUnder
  cases kept : session.engine.table with
  | some table => exact draws.built table kept
  | none => exact Registry.areDrawn_activeRules draws.registered config _

theorem DrawsFrom.run_table (draws : session.DrawsFrom known) :
    (session.run table).2.DrawsFrom known := by
  cases kept : session.engine.table with
  | some table =>
      rw [run_table_of_kept kept]
      exact draws
  | none =>
      obtain ⟨-, engine, registry⟩ := run_table_of_unbuilt kept
      refine ⟨registry ▸ draws.registered, fun table built => ?_⟩
      rw [engine] at built
      cases found : session.found with
      | error fault =>
          rw [found] at built
          cases built
      | ok config =>
          rw [found] at built
          cases built
          exact draws.rulesUnder config

/-- No operation brings in another rule. -/
theorem transit_drawsFrom (known : Set Rule) :
    Transit fun before after => before.DrawsFrom known → after.DrawsFrom known where
  trans start rest draws := rest (start draws)
  apart engine registry draws := ⟨registry ▸ draws.registered, engine ▸ draws.built⟩
  configuration session draws := by
    obtain ⟨resolver, records, ran⟩ := run_configuration_eq session
    rw [ran]
    exact ⟨draws.registered, draws.built⟩
  table _ draws := draws.run_table

end Session

namespace Host

/-- The registered rules and those that engines have built are drawn from known ones. -/
structure DrawsFrom (known : Set Rule) (host : Host) : Prop where
  registered : AreDrawn known host.registry.rules
  built : ∀ number table, (host.workers number).engine.table = some table →
    AreDrawn known table.rules

/-- What an event registers, if anything, is known. -/
def Event.IsKnown (known : Set Rule) : Event → Prop
  | .register id scopeName rule =>
    ∀ made, Registration.rule? ⟨id, scopeName, rule⟩ = some made → made ∈ known
  | _ => True

variable {known : Set Rule} {host : Host}

theorem DrawsFrom.session (draws : host.DrawsFrom known) (number : Nat) :
    (host.session number).DrawsFrom known :=
  ⟨draws.registered, draws.built number⟩

theorem after_register (host : Host) (id scopeName : String) (rule : Scope → Rule) :
    host.after (.register id scopeName rule) =
      { host with registry := host.registry.handIn ⟨id, scopeName, rule⟩ } := by
  simp only [Host.after, Registry.handIn]
  cases host.registry.register id scopeName rule <;> rfl

/-- An engine is put in the place of another one. -/
theorem built_update {workers : Nat → Worker}
    (built : ∀ number table, (workers number).engine.table = some table →
      AreDrawn known table.rules)
    (engine : Nat) {worker : Worker}
    (own : ∀ table, worker.engine.table = some table → AreDrawn known table.rules) :
    ∀ number table, (Function.update workers engine worker number).engine.table = some table →
      AreDrawn known table.rules :=
  (Function.forall_update_iff workers fun _ worker =>
    ∀ table, worker.engine.table = some table → AreDrawn known table.rules).mpr
      ⟨own, fun number _ => built number⟩

theorem DrawsFrom.after (draws : host.DrawsFrom known) {event : Event}
    (isKnown : event.IsKnown known) : (host.after event).DrawsFrom known := by
  cases event with
  | use engine operation =>
      have ran := operation.along (Session.transit_drawsFrom known) _ (draws.session engine)
      exact ⟨ran.registered, built_update draws.built engine ran.built⟩
  | create engine asks configuration skipped =>
      exact ⟨draws.registered, built_update draws.built engine fun _ none => nomatch none⟩
  | register id scopeName rule =>
      rw [after_register]
      exact ⟨Registry.areDrawn_handIn draws.registered isKnown, draws.built⟩
  | skip engine ids =>
      exact ⟨draws.registered, built_update draws.built engine (draws.built engine)⟩
  | reset reader => exact ⟨draws.registered, draws.built⟩
  | reread reader origin => exact ⟨draws.registered, draws.built⟩
  | write files => exact ⟨draws.registered, draws.built⟩
  | edit units => exact ⟨draws.registered, draws.built⟩

theorem DrawsFrom.run (draws : host.DrawsFrom known) {events : List Event}
    (areKnown : ∀ event ∈ events, event.IsKnown known) : (host.run events).DrawsFrom known := by
  induction events generalizing host with
  | nil => exact draws
  | cons event rest ih =>
      rw [List.forall_mem_cons] at areKnown
      exact ih (draws.after areKnown.1) areKnown.2

end Host

/-! ## Runs -/

namespace Session

variable {known : Set Rule} {session next : Session} {outcome : Outcome}

/-- The configuration of the engine. There is one after every walk. -/
def settings (session : Session) : Configuration :=
  session.engine.configuration.getD {}

theorem settings_of_configured {config : Configuration}
    (configured : session.engine.configuration = some config) : session.settings = config := by
  rw [settings, configured, Option.getD_some]

theorem DrawsFrom.accounts_execute (draws : session.DrawsFrom known) {place : Nat}
    (ran : session.run (execute place) = (.ok outcome, next)) :
    outcome.Accounts known [.of next.settings (session.units.getD place {})] := by
  obtain ⟨config, same, -, configured, -⟩ := run_execute_inv ran
  rw [settings_of_configured configured]
  have accounts := Policy.accounts_walkUnit config (draws.rulesUnder config)
    (session.units.getD place {})
  rwa [← same, Outcome.Accounts.untimed_iff] at accounts

/-- A run accounts for the units in its places as they were before it. -/
theorem DrawsFrom.accounts_executeMany (draws : session.DrawsFrom known)
    {places : List Nat} (ran : session.run (executeMany places) = (.ok outcome, next)) :
    outcome.Accounts known
      (places.map fun place => .of next.settings (session.units.getD place {})) := by
  cases places with
  | nil =>
      cases ran
      exact .nil
  | cons place rest =>
      rw [executeMany, executeOnto, run_bind] at ran
      rcases walked : session.run (execute place) with ⟨fault | first, middle⟩
      · rw [walked] at ran
        cases ran
      · rw [walked] at ran
        obtain ⟨config, -, units, configured, -⟩ := run_execute_inv walked
        have drawsLater := (transit_drawsFrom known).execute place session draws
        have extended := transit_extends.executeOnto (Outcome.merge {} first) rest middle
        rw [walked] at drawsLater
        have knows : middle.Knows config (middle.rulesUnder config) := ⟨configured, rfl⟩
        obtain ⟨merged, last, ranOn, same, -, -⟩ :=
          knows.run_executeOnto (Outcome.merge {} first) rest
        dsimp only at ran
        rw [ranOn] at ran extended
        cases ran
        rw [settings_of_configured (extended.configuration config configured)]
        have one := Outcome.Accounts.nil.merge (draws.accounts_execute walked)
        rw [settings_of_configured configured] at one
        have all := Policy.accounts_walksAt config (drawsLater.rulesUnder config) one
          middle.units rest
        rw [units, Policy.unit_walkUnit] at all same
        simp only [Policy.reading_set_unitAfter config (Policy.entry_unitAfter config)] at all
        exact all.of_untimed_eq same

end Session

/-! ## Outcomes of a host -/

namespace Host

/-- The built-in rules are registered, and no engine has built its rules. -/
structure IsFresh (host : Host) : Prop where
  registered : host.registry = .builtIn
  unbuilt : ∀ number, (host.workers number).engine.table = none

/-- The built-in rules and some custom ones. -/
def withBuiltIn (custom : Set Rule) : Set Rule :=
  { rule | rule ∈ builtInRules ∨ rule ∈ custom }

/-- Outcomes that engines of a host gave, and that were merged from those, with the walks
that they are made of. Anything may happen in the host before and between the calls, but
only these custom rules are registered. -/
inductive Obtains (start : Host) (custom : Set Rule) : Outcome → List WalkEntry → Prop
  | execute {events : List Event} {number place : Nat} {outcome : Outcome} {next : Session}
      (registers : ∀ event ∈ events, event.IsKnown custom)
      (ran : ((start.run events).session number).run (Session.execute place) =
        (.ok outcome, next)) :
      Obtains start custom outcome [.of next.settings ((start.run events).units.getD place {})]
  | executeMany {events : List Event} {number : Nat} {places : List Nat} {outcome : Outcome}
      {next : Session} (registers : ∀ event ∈ events, event.IsKnown custom)
      (ran : ((start.run events).session number).run (Session.executeMany places) =
        (.ok outcome, next)) :
      Obtains start custom outcome
        (places.map fun place => .of next.settings ((start.run events).units.getD place {}))
  | merge {first second : Outcome} {walks others : List WalkEntry}
      (one : Obtains start custom first walks) (other : Obtains start custom second others) :
      Obtains start custom (first.merge second) (walks ++ others)

variable {custom : Set Rule}

theorem IsFresh.drawsFrom {host : Host} (fresh : host.IsFresh) :
    host.DrawsFrom (withBuiltIn custom) where
  registered := by
    rw [fresh.registered]
    exact ⟨by decide, fun rule listed => .inl listed⟩
  built number table built := by
    rw [fresh.unbuilt number] at built
    cases built

theorem IsFresh.drawsFrom_run {host : Host} (fresh : host.IsFresh) {events : List Event}
    (registers : ∀ event ∈ events, event.IsKnown custom) :
    (host.run events).DrawsFrom (withBuiltIn custom) := by
  apply fresh.drawsFrom.run
  intro event happens
  have isKnown := registers event happens
  cases event with
  | register id scopeName rule => exact fun made registered => .inr (isKnown made registered)
  | _ => exact trivial

/-- Rules are registered one after another. -/
def registering (rules : List Rule) : List Event :=
  rules.map fun rule => .register rule.id rule.scope.name fun _ => rule

theorem isKnown_registering {rules : List Rule} (areCustom : ∀ rule ∈ rules, rule ∈ custom) :
    ∀ event ∈ registering rules, event.IsKnown custom := by
  intro event happens
  obtain ⟨rule, listed, rfl⟩ := List.mem_map.mp happens
  intro made registered
  rw [Registration.rule?, Scope.ofName?_name] at registered
  cases registered
  exact areCustom rule listed

/-- An engine that finds a configuration walks a unit, and its outcome is one to account
for. -/
theorem obtains_of_found {start : Host} {events : List Event} {number : Nat}
    {config : Configuration} (registers : ∀ event ∈ events, event.IsKnown custom)
    (found : ((start.run events).session number).found = .ok config) (place : Nat) :
    let unit := (start.run events).units.getD place {}
    ∃ outcome, start.Obtains custom outcome [.of config unit] ∧ outcome.untimed =
      (walkUnit config (((start.run events).session number).rulesUnder config) unit).outcome := by
  intro unit
  obtain ⟨outcome, next, ran, same, -, configured, -⟩ := Session.run_execute_of_found found place
  have obtained : start.Obtains custom outcome [.of next.settings unit] := .execute registers ran
  rw [Session.settings_of_configured configured] at obtained
  exact ⟨outcome, obtained, same⟩

/-- Outcomes account for the walks that they are made of, whatever custom rules were
registered. If these attribute their diagnostics, as the built-in rules do, every diagnostic
names a unit, a class and a rule that are listed, and its listed fields show the same unless
other values are attached under these names. -/
theorem outcomes_account_for_walks {start : Host} (fresh : start.IsFresh) {outcome : Outcome}
    {walks : List WalkEntry} (obtained : start.Obtains custom outcome walks) :
    outcome.Accounts (withBuiltIn custom) walks ∧
      ((∀ rule ∈ custom, rule.Attributes) → ∀ diagnostic ∈ outcome.diagnostics,
        outcome.Covers diagnostic ∧
          (diagnostic.ShowsOrigin ↔ ¬diagnostic.Hides "unit" diagnostic.unit ∧
            ¬diagnostic.Hides "owner" diagnostic.owner ∧
            ¬diagnostic.Hides "rule_id" diagnostic.ruleId)) := by
  have accounts : outcome.Accounts (withBuiltIn custom) walks := by
    induction obtained with
    | @execute events number _ _ _ registers ran =>
        exact ((fresh.drawsFrom_run registers).session number).accounts_execute ran
    | @executeMany events number _ _ _ registers ran =>
        exact ((fresh.drawsFrom_run registers).session number).accounts_executeMany ran
    | merge _ _ one other => exact one.merge other
  refine ⟨accounts, fun attributes diagnostic listed => ⟨?_, Diagnostic.showsOrigin_iff⟩⟩
  refine accounts.covers (fun rule isKnown => ?_) diagnostic listed
  exact isKnown.elim attributes_of_builtIn (attributes rule)

/-- After a custom rule has been registered, a unit is walked, and the outcome is merged
with itself. -/
theorem outcomes_account_for_walks_at_self_merge :
    let config : Configuration := { dynamicTypingAllowed := false }
    let decl : ClassDecl := { name := "p.A", fields := [{ name := "x", isDynamic := true }] }
    let unit : CompilationUnit :=
      { name := "A.groovy", targetDirectory := some "out", classes := [decl] }
    let start : Host :=
      { units := [unit]
        readers := fun _ => {}
        workers := fun _ => { engine := { configuration := some config } } }
    let counting : Rule :=
      { id := "COUNTS", scope := .ofField
        check := fun _ node owner => .ok [.attributed "COUNTS" node owner "field"] }
    let entry : WalkEntry := ⟨"A.groovy", true, ["p.A"]⟩
    start.IsFresh ∧ counting.Attributes ∧
      ∃ outcome, start.Obtains {counting} outcome [entry, entry] ∧
        outcome.unitsProcessed = ["A.groovy", "A.groovy"] ∧ outcome.unitsSkipped = [] ∧
        (outcome.classesChecked ++ outcome.classesExempt).Perm ["p.A", "p.A"] ∧
        outcome.rulesRun.Nodup ∧
        outcome.diagnostics.map (·.ruleId) = ["COUNTS", "DEF_FIELD", "COUNTS", "DEF_FIELD"] ∧
        ∀ diagnostic ∈ outcome.diagnostics, outcome.Covers diagnostic := by
  intro config decl unit start counting entry
  have fresh : start.IsFresh := ⟨rfl, fun _ => rfl⟩
  have attributes : counting.Attributes := by
    refine Rule.attributes_of_create fun config node owner given found diagnostic listed =>
      ⟨"field", [], ?_⟩
    cases found
    rw [List.mem_singleton.mp listed]
    rfl
  have registers : ∀ event ∈ registering [counting], event.IsKnown {counting} :=
    isKnown_registering fun _ listed => List.mem_singleton.mp listed
  have found : ((start.run (registering [counting])).session 0).found = .ok config := rfl
  obtain ⟨outcome, once, same⟩ := obtains_of_found registers found 0
  have own : WalkEntry.of config unit = entry := by decide
  have once : start.Obtains {counting} outcome [entry] := own ▸ once
  have reported : outcome.diagnostics.map (·.ruleId) = ["COUNTS", "DEF_FIELD"] :=
    (congrArg (·.diagnostics.map (·.ruleId)) same).trans (by decide)
  obtain ⟨accounts, covers⟩ := outcomes_account_for_walks fresh (once.merge once)
  refine ⟨fresh, attributes, outcome.merge outcome, once.merge once, accounts.processed,
    accounts.skipped, accounts.classes, accounts.distinctRun, ?_, fun diagnostic listed => ?_⟩
  · rw [Outcome.merge, List.map_append, reported]
    rfl
  · exact (covers (fun rule isCustom => isCustom ▸ attributes) diagnostic listed).1

/-- A custom rule makes a diagnostic without naming anything, and another one attaches the
name of a rule. The first diagnostic names neither a class nor a rule that is listed. The
second one does, but its fields show a rule that is not. -/
theorem unattributed_diagnostics_name_nothing_listed :
    let config : Configuration := { dynamicTypingAllowed := false }
    let unit : CompilationUnit :=
      { name := "u", targetDirectory := some "o", classes := [{ name := "a.A" }] }
    let start : Host :=
      { units := [unit]
        readers := fun _ => {}
        workers := fun _ => { engine := { configuration := some config } } }
    let bare : Rule :=
      { id := "BARE", scope := .ofClass
        check := fun _ node _ => .ok [{ message := "m", subject := .node node }] }
    let custom : Rule :=
      { id := "CUSTOM", scope := .ofClass
        check := fun _ node owner =>
          (Diagnostic.create "CUSTOM" node owner "m" [("rule_id", .string "OTHER")]).map ([·]) }
    start.IsFresh ∧ ∃ outcome, start.Obtains {bare, custom} outcome [⟨"u", true, ["a.A"]⟩] ∧
      (∃ diagnostic ∈ outcome.diagnostics,
        diagnostic.owner ∉ outcome.classesChecked ∧ diagnostic.ruleId ∉ outcome.rulesRun) ∧
      ∃ diagnostic ∈ outcome.diagnostics, outcome.Covers diagnostic ∧
        ∃ shown, diagnostic.fields.lookup "rule_id" = some (.string shown) ∧
          shown ∉ outcome.rulesRun := by
  intro config unit start bare custom
  have registers : ∀ event ∈ registering [bare, custom], event.IsKnown {bare, custom} :=
    isKnown_registering fun _ listed => List.mem_pair.mp listed
  have found : ((start.run (registering [bare, custom])).session 0).found = .ok config := rfl
  obtain ⟨outcome, once, same⟩ := obtains_of_found registers found 0
  have own : WalkEntry.of config unit = ⟨"u", true, ["a.A"]⟩ := by decide
  have once : start.Obtains {bare, custom} outcome [⟨"u", true, ["a.A"]⟩] := own ▸ once
  let read (diagnostic : Diagnostic) :=
    (diagnostic.unit, diagnostic.owner, diagnostic.ruleId,
      (diagnostic.fields.lookup "rule_id").bind (·.string?))
  have reads : outcome.diagnostics.map read =
      [("u", "", "", some ""), ("u", "a.A", "CUSTOM", some "OTHER")] :=
    (congrArg (·.diagnostics.map read) same).trans (by decide)
  have processed : outcome.unitsProcessed = ["u"] :=
    (congrArg Outcome.unitsProcessed same).trans (by decide)
  have checked : outcome.classesChecked = ["a.A"] :=
    (congrArg Outcome.classesChecked same).trans (by decide)
  have run : outcome.rulesRun = ["BARE", "CUSTOM", "DEF_FIELD", "DEF_METHOD", "DEF_PARAMETER"] :=
    (congrArg Outcome.rulesRun same).trans (by decide)
  have given : ∀ one ∈ [("u", "", "", some ""), ("u", "a.A", "CUSTOM", some "OTHER")],
      ∃ diagnostic ∈ outcome.diagnostics, read diagnostic = one := by
    intro one listed
    rw [← reads] at listed
    exact List.mem_map.mp listed
  obtain ⟨anonymous, isGiven, named⟩ := given _ List.mem_cons_self
  obtain ⟨disguised, isGivenToo, namedToo⟩ := given _ (List.mem_cons_of_mem _ List.mem_cons_self)
  simp only [read, Prod.mk.injEq] at named namedToo
  obtain ⟨unitName, ownerName, ruleId, shown⟩ := namedToo
  obtain ⟨value, attached, text⟩ := Option.bind_eq_some_iff.mp shown
  refine ⟨⟨rfl, fun _ => rfl⟩, outcome, once, ⟨anonymous, isGiven, ?_, ?_⟩, disguised,
    isGivenToo, ⟨?_, ?_, ?_⟩, "OTHER", ?_, ?_⟩
  · simp [checked, named]
  · simp [run, named]
  · simp [processed, unitName]
  · simp [checked, ownerName]
  · simp [run, ruleId]
  · rw [attached, Document.Value.string?_eq_some_iff.mp text]
  · simp [run]

end Host

end CompilePolicy

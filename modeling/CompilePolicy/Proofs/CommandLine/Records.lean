import CompilePolicy.Proofs.CommandLine.Printing
import CompilePolicy.Proofs.Journal.Lineage
import CompilePolicy.Proofs.Policy.Resolution

/-!
# The records of a check

A check makes its records through loggers of the package, whose levels are that of the
root logger in a fresh program. When it has its outcome it makes no more records, and what
a console has shown stays shown.

Main statement: `mem_shown_of_resolved`, the records of the resolution are shown if the
levels admit them.
-/

namespace CompilePolicy.CommandLine

open CompilePolicy.Conventions CompilePolicy.Descriptor CompilePolicy.Document
open CompilePolicy.FileSystem CompilePolicy.Journal

/-! ## Levels of loggers -/

/-- The loggers through which a check makes records. -/
def checkLoggers : List String :=
  [packageLogger, resolutionLogger, loadingLogger, walkLogger]

/-- The logging of a fresh program. -/
def freshLogging (level : Level) : Logging :=
  ({} : Logging).setLevel rootLogger level

theorem levels_freshLogging (level : Level) : (freshLogging level).levels = [(rootLogger, level)] :=
  rfl

theorem levelOf_freshLogging {level : Level} (admits : level.rank ≠ 0) {logger : String}
    (listed : logger ∈ rootLogger :: checkLoggers) :
    (freshLogging level).levelOf logger = level := by
  have above : ∀ logger ∈ rootLogger :: checkLoggers,
      lineage logger = (lineage logger).dropLast ++ rootLogger :: [] ∧
        ∀ name ∈ (lineage logger).dropLast, (name == rootLogger) = false := by
    decide +kernel
  obtain ⟨line, others⟩ := above logger listed
  refine levelOf_of_lineage line (fun name member => ?_) ?_ admits
  · rw [levels_freshLogging, List.lookup_cons, others name member]
    rfl
  · rw [levels_freshLogging, List.lookup_cons_self]

/-! ## The records of a check -/

/-- A record is made through a logger of the check. -/
def IsOfCheck (record : Record) : Prop :=
  record.logger ∈ checkLoggers

theorem isOfCheck_resolution {level : Level} {message : String} :
    IsOfCheck ⟨resolutionLogger, level, message⟩ := by
  simp [IsOfCheck, checkLoggers]

theorem isOfCheck_walk {level : Level} {message : String} :
    IsOfCheck ⟨walkLogger, level, message⟩ := by
  simp [IsOfCheck, checkLoggers]

theorem isOfCheck_resolveSource {files : Files} {source : String} {parsed : Parsed}
    {records : List Record} (resolved : resolveSource files source = .ok (parsed, records)) :
    ∀ record ∈ records, IsOfCheck record := by
  unfold resolveSource at resolved
  split at resolved
  · cases resolved
    intro record member
    rcases List.mem_append.mp member with ignored | recognized
    · split at ignored
      · cases ignored
      · rw [List.mem_singleton.mp ignored]
        exact isOfCheck_resolution
    · rw [List.mem_singleton.mp recognized]
      exact isOfCheck_resolution
  · split at resolved
    · cases resolved
      intro record member
      rw [List.mem_singleton.mp member]
      exact isOfCheck_resolution
    · cases resolved

theorem isOfCheck_resolveConfiguration {files : Files} {properties : Properties}
    {config : Configuration} {records : List Record}
    (resolved : resolveConfiguration files properties = .ok (config, records)) :
    ∀ record ∈ records, IsOfCheck record := by
  unfold resolveConfiguration at resolved
  split at resolved
  · cases resolved
    intro record member
    rw [List.mem_singleton.mp member]
    exact isOfCheck_resolution
  · split at resolved
    · rename_i source _
      cases found : resolveSource files source with
      | error fault =>
          rw [found] at resolved
          cases resolved
      | ok result =>
          obtain ⟨parsed, inner⟩ := result
          rw [found] at resolved
          cases resolved
          intro record member
          rcases List.mem_append.mp member with earlier | last
          · exact isOfCheck_resolveSource found record earlier
          · rw [List.mem_singleton.mp last]
            exact isOfCheck_resolution
    · cases resolved
      intro record member
      rw [List.mem_singleton.mp member]
      exact isOfCheck_resolution

theorem isOfCheck_records (visit : ClassVisit) : ∀ record ∈ visit.records, IsOfCheck record := by
  intro record member
  unfold ClassVisit.records at member
  split at member
  · rename_i exemption _
    rw [List.mem_singleton.mp member]
    cases exemption <;> exact isOfCheck_walk
  · obtain ⟨failure, -, rfl⟩ := List.mem_map.mp member
    exact isOfCheck_walk

theorem isOfCheck_walkUnit (config : Configuration) (table : RuleTable) (unit : CompilationUnit) :
    ∀ record ∈ (walkUnit config table unit).records, IsOfCheck record := by
  intro record member
  unfold walkUnit at member
  split at member
  · rename_i reason _
    rw [List.mem_singleton.mp member]
    cases reason <;> exact isOfCheck_walk
  · rcases List.mem_append.mp member with visited | last
    · obtain ⟨visit, -, member⟩ := List.mem_flatMap.mp visited
      exact isOfCheck_records visit record member
    · rw [List.mem_singleton.mp last]
      exact isOfCheck_walk

/-! ## Parts that make no records -/

/-- A console that keeps the same records in the same way. -/
structure SameJournal (before after : Console) : Prop where
  records : after.records = before.records
  logging : after.logging = before.logging

theorem SameJournal.shown_eq {before after : Console} (same : SameJournal before after) :
    after.shown = before.shown := by
  unfold Console.shown
  rw [same.records, same.logging]

/-- A part of a command makes no records from some console on. -/
abbrev IsSilent {α : Type} (start before : Console) (setting : Setting) (part : InConsole α) :
    Prop :=
  Console.Ends before setting part (fun _ after => SameJournal start after)
    (fun _ after => SameJournal start after)

section

variable {start before : Console} (same : SameJournal start before) (setting : Setting)
include same

theorem isSilent_printLine (line : String) :
    IsSilent start before setting (Console.printLine line) :=
  Console.ends_printLine (fun _ _ => ⟨same.records, same.logging⟩) (fun _ _ => same)

theorem isSilent_exportTo (directory : Path) (config : Configuration) (tree : Path)
    (outcome : Outcome) :
    IsSilent start before setting (exportTo directory config tree outcome) := by
  unfold exportTo
  refine Console.ends_bind_of_ok (Console.run_read before setting) ?_
  refine Console.ends_bind_of_ok (Console.run_get before setting) ?_
  refine Console.ends_bind_of_ok (Console.run_modify ..) ?_
  have written : ∀ files, SameJournal start { before with files } := fun _ =>
    ⟨same.records, same.logging⟩
  split
  · exact Console.ends_throw (written _)
  · exact isSilent_printLine (written _) setting _

end

/-- What a check does when it has its outcome. -/
def concludeCheck (request : CheckRequest) (config : Configuration) (outcome : Outcome) :
    InConsole Unit := do
  outcome.diagnostics.forM fun diagnostic => Console.printLine (violationLine diagnostic)
  Console.printLine (summaryLine outcome)
  if let some directory := given? request.out then
    exportTo (Path.ofText directory) config (Path.ofText request.tree) outcome
  if outcome.hasErrors then
    throw .violations

theorem isSilent_concludeCheck (console : Console) (setting : Setting) (request : CheckRequest)
    (config : Configuration) (outcome : Outcome) :
    IsSilent console console setting (concludeCheck request config outcome) := by
  have lines : IsSilent console console setting
      (outcome.diagnostics.forM fun diagnostic => Console.printLine (violationLine diagnostic)) :=
    Console.ends_forM (fun diagnostic _ _ same => isSilent_printLine same setting _) ⟨rfl, rfl⟩
  have decided : ∀ before, SameJournal console before → IsSilent console before setting
      (if outcome.hasErrors = true then throw Stop.violations else pure ()) := by
    intro before same
    split
    · exact Console.ends_throw same
    · exact Console.ends_pure same
  unfold concludeCheck
  refine lines.bind fun _ _ same => (isSilent_printLine same setting _).bind fun _ _ same => ?_
  simp only
  split
  · exact (isSilent_exportTo same setting _ config _ outcome).bind fun _ after same =>
      decided after same
  · exact decided _ same

/-- What a check does when it has its configuration. -/
def checkUnder (request : CheckRequest) (config : Configuration) : InConsole Unit := do
  Console.log (configurationRecord config)
  let units ← loadedFrom (Path.ofText request.tree)
  checkUnits request config units

/-! ## What has been shown -/

theorem run_logAll (console : Console) (setting : Setting) (records : List Record) :
    ∃ files, console.run setting (Console.logAll records) =
      (.ok (), { console with
        files, records := console.records ++ records.filter console.logging.keeps }) := by
  induction records generalizing console with
  | nil => exact ⟨console.files, by simp [Console.logAll, Console.run_pure]⟩
  | cons record rest ih =>
      change ∃ files, console.run setting (Console.log record >>= fun _ =>
        Console.logAll rest) = _
      rw [Console.run_bind, Console.run_log]
      obtain ⟨files, ran⟩ := ih { console with
        files := console.logging.log console.files setting.lineTime record
        records := console.records ++ [record].filter console.logging.keeps }
      refine ⟨files, ran.trans ?_⟩
      dsimp only
      rw [List.append_assoc, ← List.filter_append]
      rfl

/-- What a console has shown stays shown with more records. -/
theorem shown_subset_append (console : Console) (files : Files) (records : List Record) :
    console.shown ⊆ { console with files, records := console.records ++ records }.shown := by
  intro record member
  unfold Console.shown at member ⊢
  rw [List.filter_append]
  exact List.mem_append_left _ member

/-- A part of a command takes back nothing that was shown. -/
abbrev ShowsOn {α : Type} (start before : Console) (setting : Setting) (part : InConsole α) :
    Prop :=
  Console.Ends before setting part (fun _ after => start.shown ⊆ after.shown)
    (fun _ after => start.shown ⊆ after.shown)

section

variable {start before : Console} (kept : start.shown ⊆ before.shown) (setting : Setting)
include kept

theorem showsOn_logAll (records : List Record) :
    ShowsOn start before setting (Console.logAll records) := by
  obtain ⟨files, ran⟩ := run_logAll before setting records
  exact .value ran (List.Subset.trans kept (shown_subset_append before files _))

theorem showsOn_log (record : Record) : ShowsOn start before setting (Console.log record) :=
  .value (Console.run_log before setting record)
    (List.Subset.trans kept (shown_subset_append before _ _))

theorem showsOn_loadedFrom (path : Path) : ShowsOn start before setting (loadedFrom path) := by
  unfold loadedFrom
  refine Console.ends_bind_of_ok (Console.run_get before setting) ?_
  refine Console.ends_orStop_bind (fun units _ => ?_) (fun _ _ => kept)
  exact (showsOn_log kept setting _).bind fun _ _ kept => Console.ends_pure kept

theorem showsOn_outcomeFor (config : Configuration) (skipped : List String)
    (units : List CompilationUnit) :
    ShowsOn start before setting (outcomeFor config skipped units) := by
  unfold outcomeFor
  refine Console.ends_bind_of_ok (Console.run_read before setting) ?_
  simp only
  exact (showsOn_logAll kept setting _).bind fun _ _ kept =>
    Console.ends_orStop (fun _ _ => kept) (fun _ _ => kept)

theorem showsOn_concludeCheck (request : CheckRequest) (config : Configuration)
    (outcome : Outcome) : ShowsOn start before setting (concludeCheck request config outcome) :=
  (isSilent_concludeCheck before setting request config outcome).mono
    (fun _ _ same => same.shown_eq ▸ kept) (fun _ _ same => same.shown_eq ▸ kept)

theorem showsOn_checkUnder (request : CheckRequest) (config : Configuration) :
    ShowsOn start before setting (checkUnder request config) :=
  (showsOn_log kept setting _).bind fun _ _ kept =>
    (showsOn_loadedFrom kept setting _).bind fun units _ kept =>
      (showsOn_outcomeFor kept setting config _ units).bind fun outcome _ kept =>
        showsOn_concludeCheck kept setting request config outcome

end

theorem run_propertiesFor {setting : Setting} {options : Properties.Options}
    {properties : Properties} (console : Console)
    (built : Properties.build setting.vars options = .ok properties) :
    console.run setting (propertiesFor options) = (.ok properties, console) := by
  unfold propertiesFor
  rw [Console.run_bind, Console.run_read]
  dsimp only
  rw [built]
  rfl

/-- A resolution that succeeds makes its records. -/
theorem run_resolvedFor {console : Console} {properties : Properties} {config : Configuration}
    {records : List Record} (setting : Setting)
    (resolved : resolveConfiguration console.files properties = .ok (config, records)) :
    console.run setting (resolvedFor properties) =
      (.ok config, (console.run setting (Console.logAll records)).2) := by
  obtain ⟨files, made⟩ := run_logAll console setting records
  unfold resolvedFor
  rw [Console.run_get_bind, resolved]
  change console.run setting (Console.logAll records >>= fun _ => pure config) = _
  rw [Console.run_bind, made]
  rfl

/-- A check whose options are not refused goes on under its configuration, from where the
records of the resolution have been made. -/
theorem run_checkTree {console : Console} {setting : Setting} {request : CheckRequest}
    {properties : Properties} {config : Configuration} {records : List Record}
    (registered : ∀ id ∈ request.skipped, id ∈ Registry.builtIn.ids)
    (built : Properties.build setting.vars request.properties = .ok properties)
    (resolved : resolveConfiguration console.files properties = .ok (config, records)) :
    console.run setting (checkTree request) =
      (console.run setting (Console.logAll records)).2.run setting (checkUnder request config) := by
  unfold checkTree
  rw [refuseUnknown_of_registered registered, Console.run_bind, Console.run_pure]
  dsimp only
  rw [Console.run_bind, run_propertiesFor console built]
  dsimp only
  rw [Console.run_bind, run_resolvedFor setting resolved]
  rfl

/-- The records of the resolution are shown, if the levels admit them, whatever becomes of
the check. -/
theorem mem_shown_of_resolved {console : Console} {setting : Setting} {request : CheckRequest}
    {properties : Properties} {config : Configuration} {records : List Record} {record : Record}
    (registered : ∀ id ∈ request.skipped, id ∈ Registry.builtIn.ids)
    (built : Properties.build setting.vars request.properties = .ok properties)
    (resolved : resolveConfiguration console.files properties = .ok (config, records))
    (made : record ∈ records) (kept : console.logging.keeps record = true)
    (admitted : (console.logging.levelOf rootLogger).rank ≤ record.level.rank) :
    record ∈ (console.run setting (checkTree request)).2.shown := by
  have shown : record ∈ (console.run setting (Console.logAll records)).2.shown := by
    obtain ⟨files, ran⟩ := run_logAll console setting records
    rw [ran]
    unfold Console.shown
    rw [List.mem_filter, decide_eq_true_eq]
    exact ⟨List.mem_append_right _ (List.mem_filter.mpr ⟨made, kept⟩), admitted⟩
  rw [run_checkTree registered built resolved]
  rcases showsOn_checkUnder (List.Subset.refl _) setting request config with
    ⟨last, kept⟩ | ⟨last, kept⟩
  · rw [last]
    exact kept shown
  · rw [last]
    exact kept shown

end CompilePolicy.CommandLine

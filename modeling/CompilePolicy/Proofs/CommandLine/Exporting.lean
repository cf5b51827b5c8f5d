import CompilePolicy.Proofs.CommandLine.Checking
import CompilePolicy.Proofs.CommandLine.LogFile

/-!
# The configuration that a check goes by

A check resolves its configuration once and does the rest under it: it walks the units of
its descriptor, and its reports hold the configuration and what was found. Records are
made meanwhile, and a log file takes them. As long as it is apart from the descriptor and
the source of conventions, these are read as they were at the start.
-/

namespace CompilePolicy.CommandLine

open CompilePolicy.Conventions CompilePolicy.Descriptor CompilePolicy.FileSystem
open CompilePolicy.Journal

/-! ## Files that are read -/

/-- A check reads its descriptor and the source of conventions that its properties lead
to. -/
def IsRead (request : CheckRequest) (properties : Properties) (path : Path) : Prop :=
  path = .ofText request.tree ∨ ∃ source, properties.source? = some source ∧ path = .ofText source

/-- A property of consoles that records keep, and under which some paths lead to the files
that they led to at the start. -/
structure Sustains (files : Files) (isRead : Path → Prop) (setting : Setting)
    (Kept : Console → Prop) : Prop where
  logs : ∀ (record : Record) (before : Console), Kept before →
    Kept (before.run setting (Console.log record)).2
  same : ∀ {console path}, Kept console → isRead path → HoldsSame path files console.files

/-- Where no log file is open, the files stay as they are. -/
theorem sustains_unlogged (files : Files) (isRead : Path → Prop) (setting : Setting) :
    Sustains files isRead setting fun console =>
      console.logging.files = [] ∧ console.files = files where
  logs record before kept := by
    rw [Console.run_log]
    exact ⟨kept.1, (log_of_no_files kept.1 before.files _ record).trans kept.2⟩
  same kept _ _ := by rw [kept.2]

/-- A log file takes the records, and everything apart from it stays. -/
theorem sustains_logged {files : Files} {level : Level} {place : Place} {opened : Logging.Opened}
    {isRead : Path → Prop} (isOpened : IsOpened files level place opened)
    (apart : ∀ path, isRead path → IsApart files opened path) (setting : Setting) :
    Sustains files isRead setting fun console =>
      opened.files.SameBut place console.files ∧
        console.logging = besideLogFile level place where
  logs record before kept := by
    rw [Console.run_log]
    refine ⟨sameBut_log (fun log listed => ?_) kept.1 setting.lineTime record, kept.2⟩
    rw [kept.2] at listed
    rw [List.mem_singleton.mp listed]
  same kept reads := isOpened.holdsSame kept.1 (apart _ reads)

/-! ## Up to the configuration -/

namespace Sustains

variable {files : Files} {setting : Setting} {Kept : Console → Prop} {request : CheckRequest}
variable {properties : Properties} {config : Configuration} {records : List Record}
variable {console : Console} {Stopped : Stop → Console → Prop}
variable (sustains : Sustains files (IsRead request properties) setting Kept)
include sustains

theorem ends_log (record : Record) (before : Console) (kept : Kept before) :
    Console.Ends before setting (Console.log record) (fun _ after => Kept after) Stopped :=
  .value (Console.run_log before setting record) (sustains.logs record before kept)

/-- Making records keeps what each record keeps. -/
theorem kept_logAll (kept : Kept console) (records : List Record) :
    Kept (console.run setting (Console.logAll records)).2 := by
  have ends : Console.Ends console setting (Console.logAll records) (fun _ after => Kept after)
      fun _ _ => False := ends_logAll sustains.ends_log kept records
  rcases ends with ⟨ran, kept⟩ | ⟨-, impossible⟩
  · rw [ran]
    exact kept
  · exact impossible.elim

/-- A check whose options are not refused goes on under the configuration that there is to
find at the start. -/
theorem run_checkTree (kept : Kept console)
    (registered : ∀ id ∈ request.skipped, id ∈ Registry.builtIn.ids)
    (built : Properties.build setting.vars request.properties = .ok properties)
    (resolved : resolveConfiguration files properties = .ok (config, records)) :
    console.run setting (checkTree request) =
      (console.run setting (Console.logAll records)).2.run setting
        (checkUnder request config) := by
  have same : resolveConfiguration console.files properties = .ok (config, records) := by
    rw [← resolved]
    exact resolveConfiguration_congr_files fun source led =>
      sustains.same kept (.inr ⟨source, led, rfl⟩)
  exact CommandLine.run_checkTree registered built same

end Sustains

/-! ## Reports -/

/-- A check leaves its reports: they hold the configuration, and what the policy gives for
the units of the descriptor. -/
def LeavesReports (setting : Setting) (files : Files) (request : CheckRequest)
    (config : Configuration) (console : Console) : Prop :=
  ∃ units seconds, loadUnits files (.ofText request.tree) = .ok units ∧
    ∀ directory, given? request.out = some directory → ∀ format,
      (checkContent setting request config units seconds).StandsIn console.files
        (.ofText directory) format

/-- A part of a check leaves the reports if the check completes with it. -/
abbrev EndsReported (setting : Setting) (files : Files) (request : CheckRequest)
    (config : Configuration) (console : Console) (part : InConsole Unit) : Prop :=
  Console.Ends console setting part
    (fun _ after => LeavesReports setting files request config after)
    (fun stop after => stop = .violations → LeavesReports setting files request config after)

/-- An export that does not stop has written all reports. -/
theorem ends_exportTo (console : Console) (setting : Setting) (directory : Path)
    (config : Configuration) (tree : Path) (outcome : Outcome) :
    let content : Report.Content :=
      { now := setting.now, outcome, configuration := some config, tree := some tree.text }
    Console.Ends console setting (exportTo directory config tree outcome)
      (fun _ after => ∀ format, content.StandsIn after.files directory format)
      (fun stop _ => stop ≠ .violations) := by
  intro content
  have standing := (Report.exportAll_spec console.files content directory).2
  unfold exportTo
  refine Console.ends_bind_of_ok (Console.run_read console setting) ?_
  refine Console.ends_bind_of_ok (Console.run_get console setting) ?_
  refine Console.ends_bind_of_ok (Console.run_modify ..) ?_
  split
  · exact Console.ends_throw (by simp)
  · rename_i unfailing
    exact Console.ends_printLine (fun _ _ => standing unfailing) fun _ _ => by simp

/-- A check of units that completes leaves its reports. -/
theorem ends_checkUnits {files : Files} {setting : Setting} {Kept : Console → Prop}
    {request : CheckRequest} {properties : Properties} {config : Configuration}
    {units : List CompilationUnit} {console : Console}
    (sustains : Sustains files (IsRead request properties) setting Kept) (kept : Kept console)
    (loaded : loadUnits files (.ofText request.tree) = .ok units) :
    EndsReported setting files request config console (checkUnits request config units) := by
  unfold checkUnits
  refine (ends_outcomeFor sustains.ends_log kept config request.skipped units).bind ?_
  rintro _ after ⟨⟨seconds, rfl⟩, -⟩
  have line : ∀ (before : Console) (text : String), Console.Ends before setting
      (Console.printLine text) (fun _ _ => True)
      (fun stop after => stop = .violations →
        LeavesReports setting files request config after) :=
    fun before text => Console.ends_printLine (fun _ _ => trivial) fun _ _ same => by cases same
  have lines := @Console.ends_forM Diagnostic after setting _ (fun _ => True)
    (Policy.total config request.skipped units).diagnostics _
    (fun diagnostic _ before _ => line before (violationLine diagnostic)) trivial
  refine lines.bind fun _ after _ => (line after _).bind fun _ after _ => ?_
  have decided : ∀ before, LeavesReports setting files request config before →
      EndsReported setting files request config before
        (if Outcome.hasErrors { Policy.total config request.skipped units with seconds } = true
          then throw Stop.violations else pure ()) := by
    intro before leaves
    split
    · exact Console.ends_throw fun _ => leaves
    · exact Console.ends_pure leaves
  cases asked : given? request.out with
  | none => exact decided after ⟨units, seconds, loaded, by simp [asked]⟩
  | some directory =>
      refine ((ends_exportTo after setting (.ofText directory) config (.ofText request.tree)
        _).mono (fun _ _ => id) fun stop _ other same => absurd same other).bind ?_
      intro _ after standing
      refine decided after ⟨units, seconds, loaded, fun other given => ?_⟩
      rw [asked] at given
      cases given
      exact standing

/-- A check under a configuration that completes leaves its reports. -/
theorem ends_checkUnder {files : Files} {setting : Setting} {Kept : Console → Prop}
    {request : CheckRequest} {properties : Properties} {console : Console} {bytes : ByteArray}
    (sustains : Sustains files (IsRead request properties) setting Kept) (kept : Kept console)
    (found : files.entry (.ofText request.tree) = .ok (.file bytes)) (config : Configuration) :
    EndsReported setting files request config console (checkUnder request config) := by
  unfold checkUnder
  refine (sustains.ends_log _ console kept).bind fun _ before kept => ?_
  have same := loadUnits_congr found (sustains.same kept (.inl rfl))
  refine (ends_loadedFrom sustains.ends_log kept fun _ _ stop => by cases stop).bind ?_
  rintro units after ⟨loaded, kept⟩
  exact ends_checkUnits sustains kept (same.symm.trans loaded)

/-! ## The program -/

/-- A check gets as far as its configuration: the rules that it leaves out are known, and
its log file, if it has one, can be opened and is apart from what the check reads. -/
structure Reaches (setting : Setting) (files : Files) (level : Level) (request : CheckRequest)
    (properties : Properties) : Prop where
  registered : ∀ id ∈ request.skipped, id ∈ Registry.builtIn.ids
  logged : ∀ path, given? request.logFile = some path →
    ∃ opened, Opens files level setting path opened ∧
      ∀ read, IsRead request properties read → IsApart files opened read

/-- The console from which a check finds its configuration: a fresh one, or the one in which
its log file has just been opened. -/
inductive Begins (setting : Setting) (files : Files) (level : Level) (request : CheckRequest) :
    Console → Prop
  | plain (unlogged : given? request.logFile = none) :
      Begins setting files level request { files, logging := freshLogging level }
  | logged {path : String} {opened : Logging.Opened}
      (asked : given? request.logFile = some path)
      (opens : Opens files level setting path opened) :
      Begins setting files level request (openedConsole opened)

section

variable {setting : Setting} {files : Files} {level : Level} {request : CheckRequest}
variable {properties : Properties} {config : Configuration} {records : List Record}

/-- From where a check has its configuration, it goes on under it. -/
theorem Reaches.run_check (reaches : Reaches setting files level request properties)
    (built : Properties.build setting.vars request.properties = .ok properties)
    (resolved : resolveConfiguration files properties = .ok (config, records)) :
    ∃ (Kept : Console → Prop) (begun : Console),
      Sustains files (IsRead request properties) setting Kept ∧
      Begins setting files level request begun ∧
      let after := (begun.run setting (Console.logAll records)).2
      Kept after ∧ Console.run { files, logging := freshLogging level } setting (check request) =
        after.run setting (checkUnder request config) := by
  rw [check_eq]
  cases asked : given? request.logFile with
  | none =>
      have sustains := sustains_unlogged files (IsRead request properties) setting
      let begun : Console := { files, logging := freshLogging level }
      have kept : begun.logging.files = [] ∧ begun.files = files := ⟨rfl, rfl⟩
      exact ⟨_, begun, sustains, .plain asked, sustains.kept_logAll kept records,
        sustains.run_checkTree kept reaches.registered built resolved⟩
  | some path =>
      obtain ⟨opened, opens, apart⟩ := reaches.logged path asked
      obtain ⟨place, isOpened⟩ := isOpened_of_openFile opens.1
      obtain ⟨held, stands⟩ := isOpened.held
      have sustains := sustains_logged isOpened apart setting
      dsimp only
      rw [Console.run_bind]
      rcases ends_openLog files level setting path with ⟨ran, ready⟩ | ⟨-, unopened, -⟩
      · obtain ⟨other, opensOther, rfl⟩ := ready
        obtain rfl : other = opened := Except.ok.inj (opensOther.1.symm.trans opens.1)
        have kept : other.files.SameBut place (openedConsole other).files ∧
            (openedConsole other).logging = besideLogFile level place :=
          ⟨.refl stands, isOpened.logging⟩
        rw [ran]
        exact ⟨_, _, sustains, .logged asked opens, sustains.kept_logAll kept records,
          sustains.run_checkTree kept reaches.registered built resolved⟩
      · exact absurd opens (unopened opened)

/-- A check that gets as far as its configuration goes by it, and leaves its reports if it
completes. It goes on from where the records of the resolution have been made, and reads the
rest as it was at the start. -/
theorem Reaches.goes_by {words : List String}
    (reaches : Reaches setting files level request properties)
    (asked : readInvocation files words = .ok ⟨level, .check request⟩)
    (built : Properties.build setting.vars request.properties = .ok properties)
    (resolved : resolveConfiguration files properties = .ok (config, records)) :
    let checked := follow setting files words
    (∃ begun, Begins setting files level request begun ∧
      let after := (begun.run setting (Console.logAll records)).2
      (∀ path, IsRead request properties path → HoldsSame path files after.files) ∧
        Console.run { files, logging := freshLogging level } setting (check request) =
          after.run setting (checkUnder request config)) ∧
      (checked.stop = none ∨ checked.stop = some .violations →
        LeavesReports setting files request config checked.console) := by
  intro checked
  obtain ⟨Kept, begun, sustains, begins, kept, ran⟩ := reaches.run_check built resolved
  have reads : ∀ path, IsRead request properties path → HoldsSame path files
      (begun.run setting (Console.logAll records)).2.files := fun _ => sustains.same kept
  obtain ⟨-, bytes, found⟩ := asked_check asked
  refine ⟨⟨begun, begins, reads, ran⟩, fun completes => ?_⟩
  have ends : EndsReported setting files request config
      { files, logging := freshLogging level } (check request) := by
    rcases ends_checkUnder sustains kept found config with ⟨ranOn, leaves⟩ | ⟨ranOn, leaves⟩
    · exact .value (ran.trans ranOn) leaves
    · exact .stop (ran.trans ranOn) leaves
  rcases follow_stop_of_check asked ends with ⟨-, -, leaves⟩ | ⟨stop, stopped, leaves⟩
  · exact leaves
  · apply leaves
    rcases completes with none | some
    · rw [stopped] at none
      cases none
    · exact Option.some.inj (stopped.symm.trans some)

end

end CompilePolicy.CommandLine

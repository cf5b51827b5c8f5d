import CompilePolicy.Proofs.CommandLine.Asking
import CompilePolicy.Proofs.CommandLine.Records
import CompilePolicy.Proofs.Policy.SourceFile

/-!
# What the console shows beside a log file

A log file sets the level of the package's logger to that of informative records. The
level of the console stays, but a record that its logger drops does not come to it. So a
check with a log file shows what the check without one shows, and of that no record below
the informative ones: the records for debugging are missing on a console that asks for
them.

The two checks are run side by side. They read the same files, as long as the log file is
apart from these, and make the same records.
-/

namespace CompilePolicy.CommandLine

open CompilePolicy.Conventions CompilePolicy.Descriptor CompilePolicy.Document
open CompilePolicy.FileSystem CompilePolicy.Journal

/-! ## Levels beside a log file -/

/-- The logging beside a log file. -/
def besideLogFile (level : Level) (place : Place) : Logging :=
  ((freshLogging level).setLevel packageLogger .info).attach packageLogger place

theorem levels_besideLogFile (level : Level) (place : Place) :
    (besideLogFile level place).levels = [(packageLogger, .info), (rootLogger, level)] :=
  rfl

theorem levelOf_besideLogFile (level : Level) (place : Place) {logger : String}
    (listed : logger ∈ checkLoggers) :
    (besideLogFile level place).levelOf logger = .info := by
  have above : ∀ logger ∈ checkLoggers,
      lineage logger = (lineage logger).dropLast.dropLast ++ packageLogger :: [rootLogger] ∧
        ∀ name ∈ (lineage logger).dropLast.dropLast,
          (name == packageLogger) = false ∧ (name == rootLogger) = false := by
    decide +kernel
  obtain ⟨line, others⟩ := above logger listed
  refine levelOf_of_lineage line (fun name member => ?_) ?_ (by decide)
  · simp [levels_besideLogFile, List.lookup_cons, others name member]
  · rw [levels_besideLogFile, List.lookup_cons_self]

theorem levelOf_root_besideLogFile {level : Level} (admits : level.rank ≠ 0) (place : Place) :
    (besideLogFile level place).levelOf rootLogger = level := by
  have line : lineage rootLogger = [] ++ rootLogger :: [] := by decide
  refine levelOf_of_lineage line (by simp) ?_ admits
  have other : (rootLogger == packageLogger) = false := by decide
  simp [levels_besideLogFile, List.lookup_cons, other]

/-! ## The files that a check reads -/

section

variable {first second : Files}

/-- The loading reads the descriptor and no other file. -/
theorem loadUnits_congr {path : Path} {bytes : ByteArray}
    (found : first.entry path = .ok (.file bytes)) (same : HoldsSame path first second) :
    loadUnits second path = loadUnits first path := by
  have foundLater := (same bytes).mpr found
  unfold loadUnits readDocument Files.isThere
  rw [found, foundLater, content_of_entry found, content_of_entry foundLater]

end

/-- An open log file is apart from a path: opening it has not made the path lead to a file,
and the path does not lead to the log file. -/
structure IsApart (files : Files) (opened : Logging.Opened) (path : Path) : Prop where
  reached : opened.files.isFile path = files.isFile path
  other : ∀ log ∈ opened.logging.files, opened.files.locate path ≠ .ok log.place

/-- A log file that has been opened beside some files. -/
structure IsOpened (files : Files) (level : Level) (place : Place) (opened : Logging.Opened) :
    Prop where
  logging : opened.logging = besideLogFile level place
  grown : files.Grows opened.files
  spared : ∀ {other entry}, other ≠ place → files.at? other = some entry →
    opened.files.at? other = some entry
  held : ∃ bytes, opened.files.at? place = some (.file bytes)

theorem isOpened_of_openFile {files : Files} {level : Level} {now : Calendar.Moment} {path : Path}
    {opened : Logging.Opened}
    (ran : (freshLogging level).openFile files {} now path = .ok opened) :
    ∃ place, IsOpened files level place opened := by
  have unlogged : HoldsLogs (freshLogging level) files := by
    intro log listed
    cases listed
  have grown := (openFile_spec unlogged ran).1
  obtain ⟨before, removed, prepared, place, begun, made, able, rfl⟩ := openFile_steps ran
  cases (begun : Except.ok (freshLogging level, files) = .ok (before, removed))
  obtain ⟨-, other⟩ := Files.writable_eq_ok_iff.mp able
  refine ⟨place, rfl, grown, fun different found => ?_, Files.at?_appendAt_self other .empty⟩
  dsimp only
  rw [Files.at?_appendAt_of_ne different]
  exact Files.at?_makeDirectories found made

section

variable {files : Files} {level : Level} {place : Place} {opened : Logging.Opened}

/-- What the log file takes leaves the files that a check reads as they were. -/
theorem IsOpened.holdsSame (isOpened : IsOpened files level place opened) {later : Files}
    (same : opened.files.SameBut place later) {path : Path} (apart : IsApart files opened path) :
    HoldsSame path files later := by
  have other : opened.files.locate path ≠ .ok place :=
    apart.other ⟨packageLogger, place, true⟩ (isOpened.logging ▸ List.mem_singleton_self _)
  have kept : ∀ bytes, files.entry path = .ok (.file bytes) →
      opened.files.entry path = .ok (.file bytes) := by
    intro bytes found
    obtain ⟨reached, located, held⟩ := Files.entry_eq_ok_iff.mp found
    have locatedLater := isOpened.grown.locate located
    have different : reached ≠ place := by
      rintro rfl
      exact other locatedLater
    exact Files.entry_eq_ok_iff.mpr ⟨reached, locatedLater, isOpened.spared different held⟩
  intro bytes
  rw [same.entry_eq other]
  constructor
  · intro found
    obtain ⟨old, foundBefore⟩ : ∃ old, files.entry path = .ok (.file old) := by
      rw [← isFile_iff, ← apart.reached, isFile_iff]
      exact ⟨bytes, found⟩
    rw [kept old foundBefore] at found
    cases found
    exact foundBefore
  · exact kept bytes

end

/-- Where all log files are one file, records change nothing else. -/
theorem sameBut_log {logging : Logging} {place : Place} {first second : Files}
    (only : ∀ log ∈ logging.files, log.place = place) (same : first.SameBut place second)
    (time : String) (record : Record) :
    first.SameBut place (logging.log second time record) := by
  refine log_keeps (first.SameBut place) (fun {files log} bytes listed kept => ?_) same
  rw [only log listed]
  exact kept.appendAt bytes

/-! ## Two checks side by side -/

/-- Whether a record is informative or more important. -/
def isInformative (record : Record) : Bool :=
  decide (Level.info.rank ≤ record.level.rank)

/-- The console of a check without a log file, and that of the same check with one. -/
structure Beside (files : Files) (level : Level) (place : Place) (opened : Logging.Opened)
    (plain logged : Console) : Prop where
  plainFiles : plain.files = files
  plainLogging : plain.logging = freshLogging level
  loggedFiles : opened.files.SameBut place logged.files
  loggedLogging : logged.logging = besideLogFile level place
  shown : logged.shown = plain.shown.filter isInformative

/-- A part of a command gives the same in two related consoles, and they stay related. -/
def RunsBeside {α : Type} (Related : Console → Console → Prop) (setting : Setting)
    (part : InConsole α) : Prop :=
  ∀ plain logged, Related plain logged →
    (logged.run setting part).1 = (plain.run setting part).1 ∧
      Related (plain.run setting part).2 (logged.run setting part).2

section

variable {α β : Type} {Related : Console → Console → Prop} {setting : Setting}

theorem runsBeside_pure (value : α) : RunsBeside Related setting (pure value) :=
  fun _ _ related => ⟨rfl, related⟩

theorem runsBeside_throw (stop : Stop) : RunsBeside Related setting (throw stop : InConsole α) :=
  fun _ _ related => ⟨rfl, related⟩

/-- After a part that gives the same, both go on with the same in related consoles, or
both stop there for the same reason. -/
theorem RunsBeside.bind_cases {first : InConsole α} (begins : RunsBeside Related setting first)
    (next : α → InConsole β) {plain logged : Console} (related : Related plain logged) :
    ∃ plainAfter loggedAfter, Related plainAfter loggedAfter ∧
      ((∃ value,
        plain.run setting (first >>= next) = plainAfter.run setting (next value) ∧
        logged.run setting (first >>= next) = loggedAfter.run setting (next value)) ∨
      ∃ stop,
        plain.run setting (first >>= next) = (.error stop, plainAfter) ∧
        logged.run setting (first >>= next) = (.error stop, loggedAfter)) := by
  obtain ⟨same, still⟩ := begins plain logged related
  rw [Console.run_bind, Console.run_bind]
  rcases ranPlain : plain.run setting first with ⟨result, plainAfter⟩
  rcases ranLogged : logged.run setting first with ⟨result', loggedAfter⟩
  rw [ranPlain, ranLogged] at same still
  obtain rfl : result' = result := same
  refine ⟨plainAfter, loggedAfter, still, ?_⟩
  cases result' with
  | ok value => exact .inl ⟨value, rfl, rfl⟩
  | error stop => exact .inr ⟨stop, rfl, rfl⟩

theorem RunsBeside.bind {first : InConsole α} {next : α → InConsole β}
    (begins : RunsBeside Related setting first)
    (goesOn : ∀ value, RunsBeside Related setting (next value)) :
    RunsBeside Related setting (first >>= next) := by
  intro plain logged related
  obtain ⟨plainAfter, loggedAfter, still, goes⟩ := begins.bind_cases next related
  rcases goes with ⟨value, ranPlain, ranLogged⟩ | ⟨stop, ranPlain, ranLogged⟩
  · rw [ranPlain, ranLogged]
    exact goesOn value plainAfter loggedAfter still
  · rw [ranPlain, ranLogged]
    exact ⟨rfl, still⟩

theorem runsBeside_orStop {ε : Type} (cause : ε → Stop) (result : Except ε α) :
    RunsBeside Related setting (Console.orStop cause result) := by
  cases result with
  | ok value => exact runsBeside_pure value
  | error fault => exact runsBeside_throw (cause fault)

end

section

variable {files : Files} {level : Level} {place : Place} {opened : Logging.Opened}
variable {setting : Setting}

theorem runsBeside_log (admits : level.rank ≠ 0) {record : Record} (ofCheck : IsOfCheck record) :
    RunsBeside (Beside files level place opened) setting (Console.log record) := by
  intro plain logged beside
  rw [Console.run_log, Console.run_log]
  refine ⟨rfl, ?_⟩
  have levels : (freshLogging level).levelOf record.logger = level :=
    levelOf_freshLogging admits (List.mem_cons_of_mem _ ofCheck)
  have root : (freshLogging level).levelOf rootLogger = level :=
    levelOf_freshLogging admits List.mem_cons_self
  constructor <;> dsimp only
  · rw [beside.plainLogging, log_of_no_files rfl, beside.plainFiles]
  · exact beside.plainLogging
  · refine sameBut_log ?_ beside.loggedFiles setting.lineTime record
    rw [beside.loggedLogging]
    intro log listed
    rw [List.mem_singleton.mp listed]
  · exact beside.loggedLogging
  · have shown := beside.shown
    unfold Console.shown at shown ⊢
    simp only [beside.plainLogging, beside.loggedLogging, root,
      levelOf_root_besideLogFile admits place] at shown ⊢
    rw [List.filter_append, List.filter_append, List.filter_append, shown]
    congr 1
    simp only [List.filter_filter]
    refine List.filter_congr fun other listed => ?_
    rw [List.mem_singleton.mp listed, Bool.eq_iff_iff]
    simp only [Logging.keeps, levels, levelOf_besideLogFile level place ofCheck, isInformative,
      Bool.and_eq_true, decide_eq_true_eq]
    constructor
    · rintro ⟨shows, some, informs⟩
      exact ⟨informs, shows, some, shows⟩
    · rintro ⟨informs, shows, some, _⟩
      exact ⟨shows, some, informs⟩

theorem runsBeside_logAll (admits : level.rank ≠ 0) {records : List Record}
    (ofCheck : ∀ record ∈ records, IsOfCheck record) :
    RunsBeside (Beside files level place opened) setting (Console.logAll records) := by
  induction records with
  | nil => exact runsBeside_pure ()
  | cons record rest ih =>
      rw [List.forall_mem_cons] at ofCheck
      exact (runsBeside_log admits ofCheck.1).bind fun _ => ih ofCheck.2

theorem runsBeside_refuseUnknown (skipped : List String) :
    RunsBeside (Beside files level place opened) setting (refuseUnknown skipped) := by
  unfold refuseUnknown
  simp only
  split
  · exact runsBeside_pure ()
  · exact runsBeside_throw _

/-- Both checks resolve the same configuration. -/
theorem runsBeside_resolvedFor (admits : level.rank ≠ 0)
    (isOpened : IsOpened files level place opened) {properties : Properties}
    (apart : ∀ source, properties.source? = some source →
      IsApart files opened (.ofText source)) :
    RunsBeside (Beside files level place opened) setting (resolvedFor properties) := by
  intro plain logged beside
  have same : resolveConfiguration logged.files properties =
      resolveConfiguration plain.files properties := by
    rw [beside.plainFiles]
    exact resolveConfiguration_congr_files fun source led =>
      isOpened.holdsSame beside.loggedFiles (apart source led)
  unfold resolvedFor
  rw [Console.run_get_bind, Console.run_get_bind, same]
  cases resolved : resolveConfiguration plain.files properties with
  | error fault => exact runsBeside_throw (.source fault) plain logged beside
  | ok resolution =>
      obtain ⟨config, records⟩ := resolution
      exact ((runsBeside_logAll admits (isOfCheck_resolveConfiguration resolved)).bind fun _ =>
        runsBeside_pure config) plain logged beside

/-- Both checks load the same units. -/
theorem runsBeside_loadedFrom (admits : level.rank ≠ 0)
    (isOpened : IsOpened files level place opened) {path : Path} {bytes : ByteArray}
    (found : files.entry path = .ok (.file bytes)) (apart : IsApart files opened path) :
    RunsBeside (Beside files level place opened) setting (loadedFrom path) := by
  intro plain logged beside
  have same : loadUnits logged.files path = loadUnits plain.files path := by
    rw [beside.plainFiles]
    exact loadUnits_congr found (isOpened.holdsSame beside.loggedFiles apart)
  unfold loadedFrom
  rw [Console.run_get_bind, Console.run_get_bind, same]
  cases loadUnits plain.files path with
  | error fault => exact runsBeside_throw (.descriptor fault) plain logged beside
  | ok units =>
      have ofCheck : IsOfCheck (loadedRecord path units) := by
        simp [IsOfCheck, checkLoggers, loadedRecord]
      exact ((runsBeside_log admits ofCheck).bind fun _ =>
        runsBeside_pure units) plain logged beside

/-- Both checks have the same outcome. -/
theorem runsBeside_outcomeFor (admits : level.rank ≠ 0) (config : Configuration)
    (skipped : List String) (units : List CompilationUnit) :
    RunsBeside (Beside files level place opened) setting (outcomeFor config skipped units) := by
  have reads : RunsBeside (Beside files level place opened) setting (read : InConsole Setting) :=
    fun _ _ beside => ⟨rfl, beside⟩
  unfold outcomeFor
  refine reads.bind fun given => ?_
  have ready : Session.IsReady config skipped
      { units
        clock := { tick := given.tick }
        engine := { configuration := some config, skipped } } :=
    ⟨rfl, rfl, rfl, by simp⟩
  obtain ⟨merged, last, ran, -, -, -, records⟩ := ready.run_executeMany
  simp only at ran ⊢
  rw [ran]
  have ofCheck : ∀ record ∈ last.records, IsOfCheck record := by
    rw [records]
    intro record member
    obtain ⟨unit, -, member⟩ := List.mem_flatMap.mp member
    exact isOfCheck_walkUnit config _ unit record member
  exact (runsBeside_logAll admits ofCheck).bind fun _ => runsBeside_orStop _ _

/-- A console without a log file, and one that shows the same but for what a log file
hides. -/
structure Hides (level : Level) (plain logged : Console) : Prop where
  plainLogging : plain.logging = freshLogging level
  shown : logged.shown = plain.shown.filter isInformative

/-- The log file hides records from a part of a command, however the part ends. -/
def EndsBeside {α : Type} (Related : Console → Console → Prop) (level : Level)
    (setting : Setting) (part : InConsole α) : Prop :=
  ∀ plain logged, Related plain logged →
    Hides level (plain.run setting part).2 (logged.run setting part).2

theorem RunsBeside.endsBeside_bind {α β : Type} {first : InConsole α} {next : α → InConsole β}
    (begins : RunsBeside (Beside files level place opened) setting first)
    (goesOn : ∀ value, EndsBeside (Beside files level place opened) level setting (next value)) :
    EndsBeside (Beside files level place opened) level setting (first >>= next) := by
  intro plain logged beside
  obtain ⟨plainAfter, loggedAfter, still, goes⟩ := begins.bind_cases next beside
  rcases goes with ⟨value, ranPlain, ranLogged⟩ | ⟨stop, ranPlain, ranLogged⟩
  · rw [ranPlain, ranLogged]
    exact goesOn value plainAfter loggedAfter still
  · rw [ranPlain, ranLogged]
    exact ⟨still.plainLogging, still.shown⟩

theorem endsBeside_concludeCheck (request : CheckRequest) (config : Configuration)
    (outcome : Outcome) :
    EndsBeside (Beside files level place opened) level setting
      (concludeCheck request config outcome) := by
  have keeps : ∀ console : Console,
      SameJournal console (console.run setting (concludeCheck request config outcome)).2 := by
    intro console
    rcases isSilent_concludeCheck console setting request config outcome with
      ⟨ran, same⟩ | ⟨ran, same⟩
    · rwa [ran]
    · rwa [ran]
  intro plain logged beside
  constructor
  · rw [(keeps plain).logging, beside.plainLogging]
  · rw [(keeps plain).shown_eq, (keeps logged).shown_eq, beside.shown]

/-- A check that has opened its log file shows what it shows without one, but for the
records that the log file hides. -/
theorem endsBeside_checkTree (admits : level.rank ≠ 0)
    (isOpened : IsOpened files level place opened) {request : CheckRequest} {bytes : ByteArray}
    (found : files.entry (.ofText request.tree) = .ok (.file bytes))
    (apartTree : IsApart files opened (.ofText request.tree))
    (apart : ∀ properties source,
      Properties.build setting.vars request.properties = .ok properties →
      properties.source? = some source → IsApart files opened (.ofText source)) :
    EndsBeside (Beside files level place opened) level setting (checkTree request) := by
  unfold checkTree
  refine (runsBeside_refuseUnknown _).endsBeside_bind fun _ => ?_
  intro plain logged beside
  unfold propertiesFor
  simp only [bind_assoc]
  rw [Console.run_bind, Console.run_bind, Console.run_read, Console.run_read]
  simp only
  cases built : Properties.build setting.vars request.properties with
  | error bad => exact ⟨beside.plainLogging, beside.shown⟩
  | ok properties =>
      refine (?_ : EndsBeside (Beside files level place opened) level setting _) plain logged beside
      refine (runsBeside_resolvedFor admits isOpened fun source led =>
        apart properties source built led).endsBeside_bind fun config => ?_
      have ofCheck : IsOfCheck (configurationRecord config) := by
        simp [IsOfCheck, checkLoggers, configurationRecord]
      refine (runsBeside_log admits ofCheck).endsBeside_bind fun _ => ?_
      refine (runsBeside_loadedFrom admits isOpened found apartTree).endsBeside_bind fun units => ?_
      exact (runsBeside_outcomeFor admits config _ units).endsBeside_bind fun outcome =>
        endsBeside_concludeCheck request config outcome

end

/-! ## The program -/

theorem entry_of_found? {files : Files} {text : String} {bytes : ByteArray}
    (found : files.found? text = some (.file bytes)) :
    files.entry (.ofText text) = .ok (.file bytes) := by
  unfold Files.found? at found
  split at found
  · cases found
  · cases held : files.entry (.ofText text) with
    | error cause => simp [held] at found
    | ok entry =>
        rw [held] at found
        have same : entry = .file bytes := by
          split at found <;> simp_all
        rw [same]

/-- A path that has to lead to a file does, if it is not refused. -/
theorem found?_of_pathFault? {files : Files} {parameter path : String}
    (fine : pathFault? files parameter .file true path = none) :
    ∃ bytes, files.found? path = some (.file bytes) := by
  unfold pathFault? at fine
  split at fine
  · rw [Option.map_eq_none_iff] at fine
    cases found : files.found? path with
    | none => simp [pathRefusal?, found] at fine
    | some entry =>
        cases entry with
        | file bytes => exact ⟨bytes, rfl⟩
        | directory => simp [pathRefusal?, found] at fine
  · cases fine

theorem entry_of_requestOf {files : Files} {words : Words CommandOption} {command : Command}
    {request : CheckRequest} (asked : requestOf files words command = .ok (.check request)) :
    ∃ bytes, files.entry (.ofText request.tree) = .ok (.file bytes) := by
  cases command with
  | showConfig =>
      unfold requestOf at asked
      cases rest : refuseExtra words.arguments <;> simp [rest, Except.map] at asked
  | check =>
      simp only [requestOf] at asked
      split at asked
      · cases asked
      · unfold readTree at asked
        split at asked
        · cases asked
        · split at asked
          · cases asked
          · rename_i tree extra _ _ fine
            obtain ⟨bytes, found⟩ := found?_of_pathFault? fine
            cases rest : refuseExtra extra with
            | error fault =>
                rw [rest] at asked
                cases asked
            | ok _ =>
                rw [rest] at asked
                cases asked
                exact ⟨bytes, entry_of_found? found⟩

theorem levelOf_mem (words : Words ProgramOption) :
    levelOf words ∈ [Level.debug, .info, .warning] := by
  unfold levelOf
  split
  · simp
  · split <;> simp

theorem early?_ne_check (words : Words ProgramOption) (request : CheckRequest) :
    early? words ≠ some (.check request) := by
  intro early
  obtain ⟨option, -, found⟩ := List.exists_of_findSome?_eq_some early
  cases option <;> cases found

theorem entry_of_readRequest {files : Files} {command : Command} {words : List String}
    {request : CheckRequest} (asked : readRequest files command words = .ok (.check request)) :
    ∃ bytes, files.entry (.ofText request.tree) = .ok (.file bytes) := by
  unfold readRequest at asked
  split at asked
  · cases asked
  · split at asked
    · cases asked
    · exact entry_of_requestOf asked

/-- A command line that asks for a check sets one of three levels, and the descriptor is a
file. -/
theorem asked_check {files : Files} {words : List String} {level : Level} {request : CheckRequest}
    (asked : readInvocation files words = .ok ⟨level, .check request⟩) :
    level ∈ [Level.debug, .info, .warning] ∧
      ∃ bytes, files.entry (.ofText request.tree) = .ok (.file bytes) := by
  unfold readInvocation at asked
  split at asked
  · cases asked
  · split at asked
    · cases asked
    · rename_i read _
      split at asked
      · rename_i early _ isEarly
        cases asked
        exact absurd isEarly (early?_ne_check read request)
      · cases asked
      · rename_i name rest _ _
        split at asked
        · rename_i command _
          cases inner : readRequest files command rest with
          | error fault =>
              rw [inner] at asked
              cases asked
          | ok given =>
              rw [inner] at asked
              cases asked
              exact ⟨levelOf_mem read, entry_of_readRequest inner⟩
        · unfold readUnknown at asked
          split at asked
          · cases asked
          · split at asked
            · rename_i early isEarly
              cases asked
              exact absurd isEarly (early?_ne_check _ request)
            · cases asked

/-- A level that a command line asks for admits something. -/
theorem rank_ne_zero {level : Level} (listed : level ∈ [Level.debug, .info, .warning]) :
    level.rank ≠ 0 := by
  have ranks : ∀ level ∈ [Level.debug, .info, .warning], level.rank ≠ 0 := by decide
  exact ranks level listed

theorem console_follow_of_check {files : Files} {words : List String} {level : Level}
    {request : CheckRequest} (setting : Setting)
    (asked : readInvocation files words = .ok ⟨level, .check request⟩) :
    (follow setting files words).console =
      (Console.run { files, logging := freshLogging level } setting (check request)).2 := by
  unfold follow
  rw [asked]
  simp only [perform, freshLogging]
  split <;> rfl

/-- The line that says where the log is. -/
def logLine (opened : Logging.Opened) : String :=
  "Logging to: " ++ opened.path.text

/-- The log file of a path can be opened, and the line that says where can be printed. -/
def Opens (files : Files) (level : Level) (setting : Setting) (path : String)
    (opened : Logging.Opened) : Prop :=
  (freshLogging level).openFile files {} setting.now (.ofText path) = .ok opened ∧
    IsPrintable (logLine opened)

/-- The console in which a log file has just been opened. -/
def openedConsole (opened : Logging.Opened) : Console where
  files := opened.files
  logging := opened.logging
  output := Text.plainText (logLine opened) ++ "\n"

/-- A check goes on from where its log file is open, or ends there without a record. -/
theorem ends_openLog (files : Files) (level : Level) (setting : Setting) (path : String) :
    Console.Ends { files, logging := freshLogging level } setting (openLog path)
      (fun _ after => ∃ opened, Opens files level setting path opened ∧
        after = openedConsole opened)
      (fun _ after => (∀ opened, ¬Opens files level setting path opened) ∧ after.records = []) := by
  unfold openLog
  refine Console.ends_bind_of_ok (Console.run_read ..) ?_
  refine Console.ends_bind_of_ok (Console.run_get ..) ?_
  refine Console.ends_orStop_bind (fun opened ran => ?_) fun fault failed => ?_
  · refine Console.ends_bind_of_ok (Console.run_modify ..) ?_
    refine Console.ends_printLine (fun bytes encoded => ?_) fun fault refused => ?_
    · refine ⟨opened, ⟨ran, bytes, encoded⟩, ?_⟩
      simp [openedConsole, logLine]
    · refine ⟨?_, rfl⟩
      rintro other ⟨ranOther, bytes, encoded⟩
      rw [ran] at ranOther
      cases ranOther
      rw [show logLine opened = "Logging to: " ++ opened.path.text from rfl, refused] at encoded
      cases encoded
  · refine ⟨?_, rfl⟩
    rintro other ⟨ranOther, -⟩
    rw [failed] at ranOther
    cases ranOther

theorem shown_of_no_records {console : Console} (none : console.records = []) :
    console.shown = [] := by
  unfold Console.shown
  rw [none]
  rfl

/-- A check whose log file cannot be opened shows nothing. -/
theorem shown_of_unopened {files : Files} {level : Level} {setting : Setting}
    {request : CheckRequest} {path : String} (logged : given? request.logFile = some path)
    (unopened : ∀ opened, ¬Opens files level setting path opened) :
    let begun : Console := { files, logging := freshLogging level }
    (begun.run setting (check request)).2.shown = [] := by
  rw [check_eq, logged]
  dsimp only
  rw [Console.run_bind]
  rcases ends_openLog files level setting path with ⟨ran, opened, opens, -⟩ | ⟨ran, -, none⟩
  · exact absurd opens (unopened opened)
  · rw [ran]
    exact shown_of_no_records none

/-- A check whose log file is open hides records for debugging, and nothing else. -/
theorem hides_of_opened {files : Files} {level : Level} {setting : Setting}
    {request : CheckRequest} {path : String} {opened : Logging.Opened} {bytes : ByteArray}
    (admits : level.rank ≠ 0) (logged : given? request.logFile = some path)
    (opens : Opens files level setting path opened)
    (found : files.entry (.ofText request.tree) = .ok (.file bytes))
    (apartTree : IsApart files opened (.ofText request.tree))
    (apart : ∀ properties source,
      Properties.build setting.vars request.properties = .ok properties →
      properties.source? = some source → IsApart files opened (.ofText source)) :
    let begun : Console := { files, logging := freshLogging level }
    Hides level (begun.run setting (checkTree request)).2
      (begun.run setting (check request)).2 := by
  intro begun
  obtain ⟨place, isOpened⟩ := isOpened_of_openFile opens.1
  obtain ⟨held, stands⟩ := isOpened.held
  rw [check_eq, logged]
  dsimp only
  rw [Console.run_bind begun]
  rcases ends_openLog files level setting path with ⟨ran, ready⟩ | ⟨-, unopened, -⟩
  · obtain ⟨other, opensOther, rfl⟩ := ready
    obtain rfl : other = opened := by
      have same := opensOther.1.symm.trans opens.1
      exact Except.ok.inj same
    rw [ran]
    refine endsBeside_checkTree admits isOpened found apartTree apart begun _ ?_
    have quiet : (openedConsole other).shown = [] := shown_of_no_records rfl
    constructor
    · rfl
    · rfl
    · exact .refl stands
    · exact isOpened.logging
    · rw [quiet, shown_of_no_records (rfl : begun.records = [])]
      rfl
  · exact absurd opens (unopened opened)

theorem Hides.shown_eq_iff {level : Level} {plain logged : Console}
    (hides : Hides level plain logged) :
    logged.shown = plain.shown ↔ ∀ record ∈ plain.shown, isInformative record = true := by
  rw [hides.shown, List.filter_eq_self]

/-- Nothing is hidden from a console that does not ask for debugging. -/
theorem Hides.shown_eq {level : Level} {plain logged : Console} (hides : Hides level plain logged)
    (listed : level ∈ [Level.debug, .info, .warning]) (other : level ≠ .debug) :
    logged.shown = plain.shown := by
  have informs : ∀ level ∈ [Level.debug, .info, .warning],
      level ≠ .debug → Level.info.rank ≤ level.rank := by
    decide
  rw [hides.shown_eq_iff]
  intro record member
  have shows := (List.mem_filter.mp member).2
  rw [hides.plainLogging, levelOf_freshLogging (rank_ne_zero listed) List.mem_cons_self,
    decide_eq_true_eq] at shows
  exact decide_eq_true (Int.le_trans (informs level listed other) shows)

/-- A check with a log file shows nothing if the log file cannot be opened. Otherwise, if
the log file is apart from the descriptor and from the source of conventions, it shows what
the same check shows without one, and of that only the informative records. This is the
same unless records for debugging are asked for and made. -/
theorem log_file_hides_debugging {setting : Setting} {files : Files}
    {words wordsWithout : List String} {level : Level} {request : CheckRequest}
    (asked : readInvocation files words = .ok ⟨level, .check request⟩)
    (askedWithout : readInvocation files wordsWithout =
      .ok ⟨level, .check { request with logFile := none }⟩) :
    let shown := (follow setting files words).console.shown
    let expected := (follow setting files wordsWithout).console.shown
    (given? request.logFile = none → shown = expected) ∧
    ∀ path, given? request.logFile = some path →
      ((∀ opened, ¬Opens files level setting path opened) → shown = []) ∧
      ∀ opened, Opens files level setting path opened →
        IsApart files opened (.ofText request.tree) →
        (∀ properties source,
          Properties.build setting.vars request.properties = .ok properties →
          properties.source? = some source → IsApart files opened (.ofText source)) →
        shown = expected.filter isInformative ∧
          (shown = expected ↔ ∀ record ∈ expected, isInformative record = true) ∧
          (level ≠ .debug → shown = expected) := by
  intro shown expected
  have without : check { request with logFile := none } = checkTree request := check_eq _
  obtain ⟨listed, bytes, found⟩ := asked_check asked
  simp only [shown, expected, console_follow_of_check setting asked,
    console_follow_of_check setting askedWithout, without]
  refine ⟨fun unlogged => ?_, fun path logged => ⟨shown_of_unopened logged, ?_⟩⟩
  · rw [check_eq, unlogged]
  · intro opened opens apartTree apart
    have hides := hides_of_opened (rank_ne_zero listed) logged opens found apartTree apart
    exact ⟨hides.shown, hides.shown_eq_iff, hides.shown_eq listed⟩

/-- Beside a log file only informative records are shown. -/
theorem isInformative_of_mem_shown {setting : Setting} {files : Files} {words : List String}
    {level : Level} {request : CheckRequest} {path : String} {opened : Logging.Opened}
    {record : Record} (asked : readInvocation files words = .ok ⟨level, .check request⟩)
    (logged : given? request.logFile = some path) (opens : Opens files level setting path opened)
    (apartTree : IsApart files opened (.ofText request.tree))
    (apart : ∀ properties source,
      Properties.build setting.vars request.properties = .ok properties →
      properties.source? = some source → IsApart files opened (.ofText source))
    (shown : record ∈ (follow setting files words).console.shown) :
    isInformative record = true := by
  obtain ⟨listed, bytes, found⟩ := asked_check asked
  have hides := hides_of_opened (rank_ne_zero listed) logged opens found apartTree apart
  rw [console_follow_of_check setting asked, hides.shown] at shown
  exact (List.mem_filter.mp shown).2

/-! ## A log file beside one descriptor -/

/-- A time at which a log file is opened. -/
def loggedAt : Setting := { now := ⟨⟨2025, 1, 2⟩, 3, 4, 5, 0, none⟩, lineTime := "" }

/-- The log file of that time, opened beside a descriptor alone. -/
def loggedBeside (level : Level) : Logging.Opened :=
  let place : Place := ["run_20250102_030405.log"]
  { path := ⟨"", place⟩
    logging := besideLogFile level place
    files := (oneFile "[]").put place (.file .empty) }

theorem opens_loggedBeside {level : Level} (listed : level ∈ [Level.debug, .info, .warning]) :
    Opens (oneFile "[]") level loggedAt "run.log" (loggedBeside level) := by
  simp only [List.mem_cons, List.not_mem_nil, or_false] at listed
  rcases listed with rfl | rfl | rfl <;> exact ⟨by decide +kernel, by decide +kernel⟩

theorem isApart_loggedBeside (level : Level) :
    ∀ path ∈ ["t.json", "disable: true"],
      IsApart (oneFile "[]") (loggedBeside level) (.ofText path) := by
  have evaluated : ∀ path ∈ ["t.json", "disable: true"],
      let opened := loggedBeside .debug
      opened.files.isFile (.ofText path) = (oneFile "[]").isFile (.ofText path) ∧
        opened.files.locate (.ofText path) ≠ .ok ["run_20250102_030405.log"] := by
    decide +kernel
  intro path listed
  obtain ⟨reached, other⟩ := evaluated path listed
  exact ⟨reached, List.forall_mem_singleton.mpr other⟩

/-- A console that asks for informative records only shows the same beside a log file. -/
theorem log_file_hides_nothing_from_verbose_check :
    let files := Files.empty.withFile (.ofText "t.json") "[]".toUTF8
    let setting : Setting := { now := ⟨⟨2025, 1, 2⟩, 3, 4, 5, 0, none⟩, lineTime := "" }
    let words := ["-v", "check", "t.json"]
    (follow setting files (words ++ ["--log-file", "run.log"])).console.shown =
      (follow setting files words).console.shown := by
  intro files setting words
  have asked : readInvocation (oneFile "[]") (words ++ ["--log-file", "run.log"]) =
      .ok ⟨.info, .check (checkAsked "t.json" [(.logFile, "run.log")])⟩ :=
    @readInvocation_oneFile "[]" .info (by decide) [(.logFile, "run.log")] (by decide)
      (by decide +kernel)
  have askedWithout : readInvocation (oneFile "[]") words =
      .ok ⟨.info, .check (checkAsked "t.json" [])⟩ :=
    @readInvocation_oneFile "[]" .info (by decide) [] (by decide) (by decide)
  obtain ⟨-, logged⟩ := log_file_hides_debugging asked askedWithout
  refine ((logged "run.log" rfl).2 _ (opens_loggedBeside (by decide))
    (isApart_loggedBeside .info _ List.mem_cons_self) ?_).2.2 (by decide)
  intro properties source built led
  cases built
  cases led

/-- With debugging asked for, a record of the resolution does not come to the console if
there is a log file. -/
theorem log_file_hides_recognized_conventions :
    let files := Files.empty.withFile (.ofText "t.json") "[]".toUTF8
    let setting : Setting := { now := ⟨⟨2025, 1, 2⟩, 3, 4, 5, 0, none⟩, lineTime := "" }
    let words := ["--debug", "check", "t.json", "-c", "disable: true"]
    let hidden : Record := ⟨resolutionLogger, .debug, "Recognized conventions: disable"⟩
    hidden ∈ (follow setting files words).console.shown ∧
      hidden ∉ (follow setting files (words ++ ["--log-file", "run.log"])).console.shown := by
  intro files setting words hidden
  let config : Configuration := { globalDisable := true, source := "conventions" }
  let request := checkAsked "t.json" [(.conventions, "disable: true")]
  let logged := checkAsked "t.json" [(.conventions, "disable: true"), (.logFile, "run.log")]
  have asked : readInvocation (oneFile "[]") words = .ok ⟨.debug, .check request⟩ :=
    @readInvocation_oneFile "[]" .debug (by decide) [(.conventions, "disable: true")] (by decide)
      (by decide +kernel)
  have askedLogged : readInvocation (oneFile "[]") (words ++ ["--log-file", "run.log"]) =
      .ok ⟨.debug, .check logged⟩ :=
    @readInvocation_oneFile "[]" .debug (by decide)
      [(.conventions, "disable: true"), (.logFile, "run.log")] (by decide) (by decide +kernel)
  have built : Properties.build loggedAt.vars request.properties =
      .ok [(Properties.conventions, "disable: true")] := by
    decide +kernel
  have resolved : resolveConfiguration (oneFile "[]") [(Properties.conventions, "disable: true")] =
      .ok (config, [hidden, config.record]) := by
    decide +kernel
  rw [show files = oneFile "[]" from rfl]
  constructor
  · rw [console_follow_of_check setting asked, check_eq]
    exact mem_shown_of_resolved (List.forall_mem_nil _) built resolved List.mem_cons_self
      (by decide) (by decide)
  · intro shown
    have informs : isInformative hidden = true := by
      refine isInformative_of_mem_shown askedLogged rfl (opens_loggedBeside (by decide))
        (isApart_loggedBeside .debug _ List.mem_cons_self) ?_ shown
      intro properties source same led
      cases built.symm.trans same
      cases led
      exact isApart_loggedBeside .debug _ (List.mem_cons_of_mem _ List.mem_cons_self)
    revert informs
    decide

end CompilePolicy.CommandLine

import CompilePolicy.Journal.Logging
import CompilePolicy.Proofs.FileSystem.Growth

/-!
# Opening log files and writing to them

A record is added to log files that are there, and to no other place. Opening a log file
can take away an old file first and makes the directories that lead to the new one. So the
log file is there afterwards, and every other file is as it was.

Main statement: `opens_openFile`, what opening a log file changes.
-/

namespace CompilePolicy.FileSystem.Files

/-- The bytes in a file, and none where no file is. -/
def heldAt (files : Files) (place : Place) : ByteArray :=
  match files.at? place with
  | some (.file bytes) => bytes
  | _ => .empty

variable {files : Files} {place : Place}

theorem heldAt_of_file {bytes : ByteArray} (found : files.at? place = some (.file bytes)) :
    files.heldAt place = bytes := by
  unfold heldAt
  rw [found]

theorem heldAt_of_none (empty : files.at? place = none) : files.heldAt place = .empty := by
  unfold heldAt
  rw [empty]

theorem heldAt_congr {next : Files}
    (same : ∀ bytes, next.at? place = some (.file bytes) ↔ files.at? place = some (.file bytes)) :
    next.heldAt place = files.heldAt place := by
  unfold heldAt
  split
  · rename_i bytes found
    rw [(same bytes).mp found]
  · rename_i none
    split
    · rename_i bytes found
      exact absurd ((same bytes).mpr found) (none bytes)
    · rfl

/-- What is added stands behind what was there. -/
theorem at?_appendAt (other : files.at? place ≠ some .directory) (bytes : ByteArray) :
    (files.appendAt place bytes).at? place = some (.file (files.heldAt place ++ bytes)) := by
  have free : ¬IsFixed place := fun fixed => other (files.at?_of_fixed fixed)
  cases found : files.at? place with
  | none => simp [appendAt, heldAt, found, at?_put_self files _ free]
  | some entry =>
      cases entry with
      | directory => exact absurd found other
      | file old => simp [appendAt, heldAt, found, at?_put_self files _ free]

end CompilePolicy.FileSystem.Files

namespace CompilePolicy.Journal

open CompilePolicy.Calendar CompilePolicy.FileSystem Logging

variable {logging : Logging} {files : Files}

/-! ## Log files that take records -/

/-- The log files are there. -/
def HoldsLogs (logging : Logging) (files : Files) : Prop :=
  ∀ log ∈ logging.files, ∃ bytes, files.at? log.place = some (.file bytes)

theorem HoldsLogs.grown {next : Files} (holds : HoldsLogs logging files)
    (grows : files.Grows next) : HoldsLogs logging next := by
  intro log listed
  rcases holds log listed with ⟨bytes, found⟩
  exact grows.contents found

theorem mem_of_takes {record : Record} {log : LogFile} (takes : log ∈ logging.takers record) :
    log ∈ logging.files := by
  rcases List.mem_flatMap.mp takes with ⟨name, _, listed⟩
  exact (List.mem_filter.mp listed).1

/-- What is kept whenever something is added to a log file is kept when a record is made. -/
theorem log_keeps (Kept : Files → Prop) {time : String} {record : Record}
    (keeps : ∀ {files : Files} {log : LogFile} (bytes : ByteArray), log ∈ logging.files →
      Kept files → Kept (files.appendAt log.place bytes))
    (kept : Kept files) : Kept (logging.log files time record) := by
  have each : ∀ (bytes : ByteArray) (logs : List LogFile) (files : Files),
      (∀ log ∈ logs, log ∈ logging.files) → Kept files →
      Kept (logs.foldl (fun written log => written.appendAt log.place bytes) files) := by
    intro bytes logs
    induction logs with
    | nil => exact fun _ _ kept => kept
    | cons log rest ih =>
        intro files listed kept
        rw [List.forall_mem_cons] at listed
        exact ih _ listed.2 (keeps bytes listed.1 kept)
  unfold Logging.log
  split
  · split
    · exact each _ _ _ (fun log taker => mem_of_takes (List.mem_filter.mp taker).1) kept
    · exact kept
  · exact kept

/-- Records are only added to log files. -/
theorem grows_log (holds : HoldsLogs logging files) (time : String) (record : Record) :
    files.Grows (logging.log files time record) := by
  refine log_keeps files.Grows (fun {before log} bytes listed grown => ?_) (.refl files)
  obtain ⟨held, found⟩ := holds.grown grown log listed
  exact grown.trans (Files.grows_appendAt (by rw [found]; simp) bytes)

/-- Records leave what is no log file as it was. -/
theorem at?_log_of_ne {place : Place} (apart : ∀ log ∈ logging.files, log.place ≠ place)
    (time : String) (record : Record) :
    (logging.log files time record).at? place = files.at? place :=
  log_keeps (fun later => later.at? place = files.at? place)
    (fun bytes listed same =>
      (Files.at?_appendAt_of_ne (apart _ listed).symm bytes).trans same) rfl

/-- Without log files nothing is written. -/
theorem log_of_no_files (unlogged : logging.files = []) (files : Files) (time : String)
    (record : Record) : logging.log files time record = files := by
  refine log_keeps (· = files) (fun {before log} bytes listed => ?_) rfl
  rw [unlogged] at listed
  cases listed

/-! ## The steps of opening a log file -/

variable {options : LogOptions} {now : Moment} {path : Path} {opened : Opened}

/-- The loggers and files with which a log file is opened: those that are found, or those
after an old file is taken away. -/
def cleared (logging : Logging) (files : Files) (options : LogOptions) (now : Moment)
    (path : Path) : Except FileSystem.Fault (Logging × Files) :=
  if options.isTimed then .ok (logging, files)
  else logging.replaceOld files (openedPath options now path)

theorem openFile_eq (logging : Logging) (files : Files) (options : LogOptions) (now : Moment)
    (path : Path) :
    logging.openFile files options now path =
      cleared logging files options now path >>= fun begun =>
        begun.2.makeDirectories (openedPath options now path).parent >>= fun prepared =>
          prepared.writable (openedPath options now path) >>= fun place =>
            .ok {
              path := openedPath options now path
              logging := (begun.1.setLevel (loggerNamed options.logger) options.level).attach
                (loggerNamed options.logger) place
              files := prepared.appendAt place .empty } := by
  unfold openFile cleared
  split
  · rfl
  · rfl

/-- Opening a log file makes the directories that it lies in, adds nothing to it and
attaches it to its logger. -/
theorem openFile_steps (ran : logging.openFile files options now path = .ok opened) :
    ∃ before removed prepared place,
      cleared logging files options now path = .ok (before, removed) ∧
      removed.makeDirectories (openedPath options now path).parent = .ok prepared ∧
      prepared.writable (openedPath options now path) = .ok place ∧
      opened = {
        path := openedPath options now path
        logging := (before.setLevel (loggerNamed options.logger) options.level).attach
          (loggerNamed options.logger) place
        files := prepared.appendAt place .empty } := by
  rw [openFile_eq] at ran
  cases begun : cleared logging files options now path with
  | error fault =>
      rw [begun] at ran
      cases ran
  | ok found =>
      obtain ⟨before, removed⟩ := found
      rw [begun] at ran
      change (removed.makeDirectories (openedPath options now path).parent >>= fun prepared =>
        prepared.writable (openedPath options now path) >>= fun place => _) = _ at ran
      cases made : removed.makeDirectories (openedPath options now path).parent with
      | error fault =>
          rw [made] at ran
          cases ran
      | ok prepared =>
          rw [made] at ran
          change (prepared.writable (openedPath options now path) >>= fun place => _) = _ at ran
          cases able : prepared.writable (openedPath options now path) with
          | error fault =>
              rw [able] at ran
              cases ran
          | ok place =>
              rw [able] at ran
              cases ran
              exact ⟨before, removed, prepared, place, rfl, made, able, rfl⟩

/-- The loggers after an old log file is taken away: no level is changed, and the log files
are the same ones, whether or not they are still there. -/
structure KeepsLogs (logging before : Logging) : Prop where
  levels : before.levels = logging.levels
  logs : ∀ log ∈ before.files, ∃ old ∈ logging.files,
    old.logger = log.logger ∧ old.place = log.place

theorem keepsLogs_refl (logging : Logging) : KeepsLogs logging logging :=
  ⟨rfl, fun log listed => ⟨log, listed, rfl, rfl⟩⟩

theorem keepsLogs_unlink (logging : Logging) (place : Place) :
    KeepsLogs logging (logging.unlink place) := by
  refine ⟨rfl, fun log listed => ?_⟩
  obtain ⟨old, listedOld, rfl⟩ := List.mem_map.mp listed
  refine ⟨old, listedOld, ?_⟩
  split <;> exact ⟨rfl, rfl⟩

/-- An old log file is taken away only where its path leads to a file. -/
theorem replaceOld_spec {before : Logging} {removed : Files}
    (ran : logging.replaceOld files path = .ok (before, removed)) :
    KeepsLogs logging before ∧
      (removed = files ∨ ∃ place, files.locate path = .ok place ∧
        files.at? place ≠ some .directory ∧ removed = files.removeAt place) := by
  unfold replaceOld Files.unlink at ran
  cases located : files.locate path with
  | error cause =>
      simp only [located] at ran
      split at ran
      · cases ran
      · rename_i unlinked
        split at unlinked
        · cases unlinked
          cases ran
          exact ⟨keepsLogs_refl logging, .inl rfl⟩
        · cases unlinked
        · rename_i wrong
          cases wrong
  | ok place =>
      simp only [located] at ran
      cases held : files.at? place with
      | none =>
          simp only [held] at ran
          cases ran
          exact ⟨keepsLogs_unlink logging place, .inl rfl⟩
      | some entry =>
          cases entry with
          | directory =>
              simp only [held] at ran
              cases ran
          | file bytes =>
              simp only [held] at ran
              cases ran
              exact ⟨keepsLogs_unlink logging place, .inr ⟨place, rfl, by simp [held], rfl⟩⟩

/-- What is taken away before a log file is opened is a file to which its path leads, and
nothing where the time is put into its name. -/
theorem cleared_spec {before : Logging} {removed : Files}
    (ran : cleared logging files options now path = .ok (before, removed)) :
    KeepsLogs logging before ∧
      (removed = files ∨ options.isTimed = false ∧
        ∃ place, files.locate (openedPath options now path) = .ok place ∧
          files.at? place ≠ some .directory ∧ removed = files.removeAt place) := by
  unfold cleared at ran
  split at ran
  · cases ran
    exact ⟨keepsLogs_refl logging, .inl rfl⟩
  · rename_i untimed
    obtain ⟨kept, same | taken⟩ := replaceOld_spec ran
    · exact ⟨kept, .inl same⟩
    · exact ⟨kept, .inr ⟨by simpa using untimed, taken⟩⟩

/-! ## What opening a log file changes -/

/-- A log file is open at a place: its path leads there, and it is empty or holds what was
there. All other files are as they were. -/
structure Opens (files : Files) (options : LogOptions) (place : Place) (opened : Opened) :
    Prop where
  located : opened.files.locate opened.path = .ok place
  held : opened.files.at? place = some (.file (files.heldAt place)) ∨
    options.isTimed = false ∧ opened.files.at? place = some (.file .empty)
  others : ∀ {other}, other ≠ place → ∀ bytes,
    opened.files.at? other = some (.file bytes) ↔ files.at? other = some (.file bytes)
  grown : files.Grows opened.files

theorem Opens.stands {place : Place} (opens : Opens files options place opened) :
    ∃ bytes, opened.files.at? place = some (.file bytes) := by
  rcases opens.held with held | ⟨-, held⟩
  · exact ⟨_, held⟩
  · exact ⟨_, held⟩

/-- A log file that is opened stands where the old one was taken away, and is attached to
its logger in the place of the one before. -/
theorem opens_openFile (ran : logging.openFile files options now path = .ok opened) :
    ∃ (place : Place) (before : Logging), Opens files options place opened ∧
      opened.path = openedPath options now path ∧ KeepsLogs logging before ∧
      opened.logging = (before.setLevel (loggerNamed options.logger) options.level).attach
        (loggerNamed options.logger) place := by
  obtain ⟨before, removed, prepared, place, begun, made, able, rfl⟩ := openFile_steps ran
  obtain ⟨located, other⟩ := Files.writable_eq_ok_iff.mp able
  obtain ⟨kept, cleared⟩ := cleared_spec begun
  refine ⟨place, before, ?_, rfl, kept, rfl⟩
  have grown := (Files.isDirectory_makeDirectories made).1
  have appended := Files.grows_appendAt other .empty
  have held : (prepared.appendAt place .empty).at? place =
      some (.file (removed.heldAt place)) := by
    rw [Files.at?_appendAt other, ByteArray.append_empty,
      Files.heldAt_congr fun bytes => Files.at?_file_makeDirectories_iff made]
  have others : ∀ asked, asked ≠ place → ∀ bytes,
      (prepared.appendAt place .empty).at? asked = some (.file bytes) ↔
        removed.at? asked = some (.file bytes) := by
    intro asked different bytes
    rw [Files.at?_appendAt_of_ne different, Files.at?_file_makeDirectories_iff made]
  rcases cleared with rfl | ⟨untimed, asked, led, notDirectory, rfl⟩
  · exact ⟨appended.locate located, .inl held, fun different => others _ different,
      grown.trans appended⟩
  · have stays : ∀ {other}, files.at? other = some .directory →
        (files.removeAt asked).at? other = some .directory := by
      intro other isDirectory
      rw [Files.at?_removeAt_of_ne files, isDirectory]
      rintro rfl
      exact notDirectory isDirectory
    -- The path still leads where the file was taken away: directories were only added.
    obtain rfl : asked = place := by
      have still := grown.locate (Files.locate_of_directories stays led)
      rw [located] at still
      exact (Except.ok.inj still).symm
    rw [Files.heldAt_of_none (files.at?_removeAt_self notDirectory)] at held
    refine ⟨appended.locate located, .inr ⟨untimed, held⟩, fun different bytes => ?_, ?_, ?_⟩
    · rw [others _ different, Files.at?_removeAt_of_ne files different]
    · exact fun isDirectory => appended.directories (grown.directories (stays isDirectory))
    · intro other bytes found
      by_cases here : other = asked
      · exact ⟨.empty, by rw [here]; exact held⟩
      · exact ⟨bytes, (others other here bytes).mpr
          ((files.at?_removeAt_of_ne here).trans found)⟩

/-- A log file that is opened is there, and so are those that stay open. -/
theorem openFile_spec (holds : HoldsLogs logging files)
    (ran : logging.openFile files options now path = .ok opened) :
    files.Grows opened.files ∧ HoldsLogs opened.logging opened.files := by
  obtain ⟨place, before, opens, -, kept, attached⟩ := opens_openFile ran
  refine ⟨opens.grown, fun log listed => ?_⟩
  rw [attached] at listed
  rcases List.mem_append.mp listed with stays | new
  · obtain ⟨old, listedOld, -, samePlace⟩ := kept.logs log (List.mem_filter.mp stays).1
    rw [← samePlace]
    exact holds.grown opens.grown old listedOld
  · rw [List.mem_singleton.mp new]
    exact opens.stands

end CompilePolicy.Journal

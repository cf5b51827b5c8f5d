import CompilePolicy.CommandLine.Program
import CompilePolicy.Proofs.CommandLine.Console
import CompilePolicy.Proofs.Journal.Opening
import CompilePolicy.Proofs.Tree.Loading
import Mathlib.Control.Monad.Basic

/-!
# Checks of files that cannot be loaded

Until a check has loaded its descriptor it only adds to files: it opens a log file and
writes records to it. So a descriptor that is a regular file at the start is one when
it is loaded, and how loading fails decides how the check ends.
-/

namespace CompilePolicy.CommandLine

open CompilePolicy.Descriptor CompilePolicy.FileSystem CompilePolicy.Journal

/-! ## What records keep -/

section

variable {Kept : Console → Prop} {console : Console} {setting : Setting}
variable {Stopped : Stop → Console → Prop}
variable (logs : ∀ (record : Record) (before : Console), Kept before →
  Console.Ends before setting (Console.log record) (fun _ after => Kept after) Stopped)
variable (kept : Kept console)
include logs kept

theorem ends_logAll (records : List Record) :
    Console.Ends console setting (Console.logAll records) (fun _ after => Kept after) Stopped :=
  Console.ends_forM (fun record _ before kept => logs record before kept) kept

/-- The configuration is resolved from the files as they are, or resolving it failed. -/
theorem ends_resolvedFor {properties : Properties}
    (stopped : ∀ fault, resolveConfiguration console.files properties = .error fault →
      Stopped (.source fault) console) :
    Console.Ends console setting (resolvedFor properties)
      (fun config after => (∃ records,
        resolveConfiguration console.files properties = .ok (config, records)) ∧ Kept after)
      Stopped := by
  unfold resolvedFor
  refine Console.ends_bind_of_ok (Console.run_get console setting) ?_
  refine Console.ends_orStop_bind ?_ stopped
  rintro ⟨config, records⟩ resolved
  refine (ends_logAll logs kept records).bind fun _ _ kept => ?_
  exact Console.ends_pure ⟨⟨records, resolved⟩, kept⟩

/-- The units are loaded from the files as they are, or loading them failed. -/
theorem ends_loadedFrom {path : Path}
    (stopped : ∀ fault, loadUnits console.files path = .error fault →
      Stopped (.descriptor fault) console) :
    Console.Ends console setting (loadedFrom path)
      (fun units after => loadUnits console.files path = .ok units ∧ Kept after) Stopped := by
  unfold loadedFrom
  refine Console.ends_bind_of_ok (Console.run_get console setting) ?_
  refine Console.ends_orStop_bind (fun units loaded => ?_) stopped
  exact (logs _ console kept).bind fun _ _ kept => Console.ends_pure ⟨loaded, kept⟩

end

/-! ## Up to the loading -/

/-- What is left of the files that a check began with: they only grew, and they are as
they were if it opens no log file. -/
structure Continues (files : Files) (isLogged : Bool) (console : Console) : Prop where
  grown : files.Grows console.files
  holds : HoldsLogs console.logging console.files
  unlogged : isLogged = false → console.logging.files = [] ∧ console.files = files

/-- A stop before the loading is another one than for the descriptor. -/
def IsOther (stop : Stop) (_ : Console) : Prop :=
  ∀ fault, stop ≠ .descriptor fault

namespace Continues

variable {files : Files} {isLogged : Bool} {console : Console}
variable {Stopped : Stop → Console → Prop}
variable (continues : Continues files isLogged console) (setting : Setting)
include continues

theorem ends_log (record : Record) :
    Console.Ends console setting (Console.log record)
      (fun _ after => Continues files isLogged after) Stopped := by
  have grows := grows_log continues.holds setting.lineTime record
  refine .value (Console.run_log console setting record) ?_
  constructor <;> dsimp only
  · exact continues.grown.trans grows
  · exact continues.holds.grown grows
  · intro unlogged
    rcases continues.unlogged unlogged with ⟨closed, same⟩
    rw [log_of_no_files closed]
    exact ⟨closed, same⟩

theorem ends_logAll (records : List Record) :
    Console.Ends console setting (Console.logAll records)
      (fun _ after => Continues files isLogged after) Stopped :=
  CommandLine.ends_logAll (fun record _ continues => continues.ends_log setting record) continues
    records

theorem ends_openLog (path : String) :
    Console.Ends console setting (openLog path) (fun _ after => Continues files true after)
      IsOther := by
  unfold openLog
  refine Console.ends_bind_of_ok (Console.run_read console setting) ?_
  refine Console.ends_bind_of_ok (Console.run_get console setting) ?_
  refine Console.ends_orStop_bind (fun opened ran => ?_) (fun _ _ => by simp [IsOther])
  rcases openFile_spec continues.holds ran with ⟨grows, holds⟩
  refine Console.ends_bind_of_ok (Console.run_modify ..) ?_
  refine Console.ends_printLine (fun bytes _ => ?_) (fun fault _ => by simp [IsOther])
  exact ⟨continues.grown.trans grows, holds, by simp⟩

theorem ends_refuseUnknown (skipped : List String) :
    Console.Ends console setting (refuseUnknown skipped)
      (fun _ after => Continues files isLogged after) IsOther := by
  unfold refuseUnknown
  simp only
  split
  · exact Console.ends_pure continues
  · exact Console.ends_throw (by simp [IsOther])

theorem ends_propertiesFor (options : Properties.Options) :
    Console.Ends console setting (propertiesFor options)
      (fun _ after => Continues files isLogged after) IsOther := by
  unfold propertiesFor
  refine Console.ends_bind_of_ok (Console.run_read console setting) ?_
  exact Console.ends_orStop (fun _ _ => continues) (fun _ _ => by simp [IsOther])

theorem ends_resolvedFor (properties : Properties) :
    Console.Ends console setting (resolvedFor properties)
      (fun _ after => Continues files isLogged after) IsOther := by
  refine (CommandLine.ends_resolvedFor (fun record _ continues =>
    continues.ends_log setting record) continues fun _ _ => ?_).mono ?_ fun _ _ => id
  · simp [IsOther]
  · exact fun _ _ both => both.2

/-- The units are loaded from the files as they are then, or loading them failed. -/
theorem ends_loadedFrom (path : Path) :
    Console.Ends console setting (loadedFrom path)
      (fun _ after => Continues files isLogged after)
      (fun stop after => Continues files isLogged after ∧
        ∃ fault, stop = .descriptor fault ∧ loadUnits after.files path = .error fault) := by
  refine (CommandLine.ends_loadedFrom (fun record _ continues =>
    continues.ends_log setting record) continues fun fault failed => ?_).mono ?_ fun _ _ => id
  · exact ⟨continues, fault, rfl, failed⟩
  · exact fun _ _ both => both.2

end Continues

/-! ## After the loading -/

/-- What a check does with units that are loaded. -/
def checkUnits (request : CheckRequest) (config : Configuration)
    (units : List CompilationUnit) : InConsole Unit := do
  let outcome ← outcomeFor config request.skipped units
  outcome.diagnostics.forM fun diagnostic => Console.printLine (violationLine diagnostic)
  Console.printLine (summaryLine outcome)
  if let some directory := given? request.out then
    exportTo (Path.ofText directory) config (Path.ofText request.tree) outcome
  if outcome.hasErrors then
    throw .violations

/-- What a check does when its log file is open. -/
def checkTree (request : CheckRequest) : InConsole Unit := do
  refuseUnknown request.skipped
  let config ← resolvedFor (← propertiesFor request.properties)
  Console.log (configurationRecord config)
  let units ← loadedFrom (Path.ofText request.tree)
  checkUnits request config units

theorem check_eq (request : CheckRequest) :
    check request =
      match given? request.logFile with
      | some path => openLog path >>= fun _ => checkTree request
      | none => checkTree request := by
  unfold check
  cases given? request.logFile with
  | none => rfl
  | some path => rfl

theorem other_printLine (console : Console) (setting : Setting) (line : String) :
    Console.Ends console setting (Console.printLine line) (fun _ _ => True) IsOther :=
  Console.ends_printLine (fun _ _ => trivial) (fun _ _ => by simp [IsOther])

theorem other_exportTo (console : Console) (setting : Setting) (directory : Path)
    (config : Configuration) (tree : Path) (outcome : Outcome) :
    Console.Ends console setting (exportTo directory config tree outcome) (fun _ _ => True)
      IsOther := by
  unfold exportTo
  refine Console.ends_bind_of_ok (Console.run_read console setting) ?_
  refine Console.ends_bind_of_ok (Console.run_get console setting) ?_
  refine Console.ends_bind_of_ok (Console.run_modify ..) ?_
  split
  · exact Console.ends_throw (by simp [IsOther])
  · exact other_printLine _ setting _

theorem other_logAll (console : Console) (setting : Setting) (records : List Record) :
    Console.Ends console setting (Console.logAll records) (fun _ _ => True) IsOther :=
  Console.ends_forM
    (fun record _ before _ => .value (Console.run_log before setting record) trivial) trivial

theorem other_outcomeFor (console : Console) (setting : Setting) (config : Configuration)
    (skipped : List String) (units : List CompilationUnit) :
    Console.Ends console setting (outcomeFor config skipped units) (fun _ _ => True) IsOther := by
  unfold outcomeFor
  refine Console.ends_bind_of_ok (Console.run_read console setting) ?_
  simp only
  refine (other_logAll console setting _).bind fun _ after _ => ?_
  exact Console.ends_orStop (fun _ _ => trivial) (fun _ _ => by simp [IsOther])

theorem other_checkUnits (console : Console) (setting : Setting) (request : CheckRequest)
    (config : Configuration) (units : List CompilationUnit) :
    Console.Ends console setting (checkUnits request config units) (fun _ _ => True) IsOther := by
  unfold checkUnits
  refine (other_outcomeFor ..).bind fun outcome after _ => ?_
  have printed : Console.Ends after setting
      (outcome.diagnostics.forM fun diagnostic => Console.printLine (violationLine diagnostic))
      (fun _ _ => True) IsOther :=
    Console.ends_forM (fun diagnostic _ before _ =>
      other_printLine before setting (violationLine diagnostic)) trivial
  refine printed.bind fun _ after _ => ?_
  refine (other_printLine ..).bind fun _ after _ => ?_
  have decided : ∀ before, Console.Ends before setting
      (if outcome.hasErrors = true then throw Stop.violations else pure ()) (fun _ _ => True)
      IsOther := by
    intro before
    split
    · exact Console.ends_throw (by simp [IsOther])
    · exact Console.ends_pure trivial
  simp only
  split
  · exact (other_exportTo ..).bind fun _ after _ => decided after
  · exact decided after

/-- A check stops at its descriptor only when loading it failed, and it has only added to
files then. -/
theorem Continues.ends_checkTree {files : Files} {isLogged : Bool} {console : Console}
    (continues : Continues files isLogged console) (setting : Setting) (request : CheckRequest) :
    Console.Ends console setting (checkTree request) (fun _ _ => True)
      (fun stop after => ∀ fault, stop = .descriptor fault → Continues files isLogged after ∧
        loadUnits after.files (Path.ofText request.tree) = .error fault) := by
  have unlike : ∀ stop after, IsOther stop after → ∀ fault, stop = .descriptor fault →
      Continues files isLogged after ∧
        loadUnits after.files (Path.ofText request.tree) = .error fault := by
    intro stop after other fault same
    exact absurd same (other fault)
  unfold checkTree
  refine ((continues.ends_refuseUnknown setting _).mono (fun _ _ => id) unlike).bind
    fun _ after continues => ?_
  refine ((continues.ends_propertiesFor setting _).mono (fun _ _ => id) unlike).bind
    fun properties after continues => ?_
  refine ((continues.ends_resolvedFor setting _).mono (fun _ _ => id) unlike).bind
    fun config after continues => ?_
  refine (continues.ends_log setting _).bind fun _ after continues => ?_
  refine ((continues.ends_loadedFrom setting _).mono (fun _ _ => id) ?_).bind
    fun units after continues => ?_
  · rintro stop after ⟨continues, fault, rfl, failed⟩ other same
    cases same
    exact ⟨continues, failed⟩
  · exact (other_checkUnits after setting request config units).mono (fun _ _ => id) unlike

/-- A check of a file stops at the descriptor only when loading it failed. The file still
is one then, and as it was if no log file was opened. -/
theorem check_ends (files : Files) (logging : Logging) (closed : logging.files = [])
    (setting : Setting) (request : CheckRequest) :
    Console.Ends { files, logging } setting (check request) (fun _ _ => True)
      (fun stop after => ∀ fault, stop = .descriptor fault → files.Grows after.files ∧
        (given? request.logFile = none → after.files = files) ∧
        loadUnits after.files (Path.ofText request.tree) = .error fault) := by
  have begun : ∀ isLogged, Continues files isLogged { files, logging } := by
    intro isLogged
    refine ⟨.refl files, ?_, fun _ => ⟨closed, rfl⟩⟩
    intro log listed
    rw [closed] at listed
    cases listed
  rw [check_eq]
  cases logged : given? request.logFile with
  | none =>
      refine ((begun false).ends_checkTree setting request).mono (fun _ _ => id) ?_
      intro stop after ended fault same
      rcases ended fault same with ⟨continues, failed⟩
      exact ⟨continues.grown, fun _ => (continues.unlogged rfl).2, failed⟩
  | some path =>
      refine (((begun true).ends_openLog setting path).mono (fun _ _ => id) ?_).bind
        fun _ after continues => ?_
      · intro stop after other fault same
        exact absurd same (other fault)
      · refine (continues.ends_checkTree setting request).mono (fun _ _ => id) ?_
        intro stop after ended fault same
        rcases ended fault same with ⟨continues, failed⟩
        exact ⟨continues.grown, by simp, failed⟩

/-! ## The program -/

/-- A command line stops as what it asks for does. -/
theorem follow_stop_of_ends {files : Files} {words : List String} {level : Level}
    {request : Request} {Done : Unit → Console → Prop} {Stopped : Stop → Console → Prop}
    {setting : Setting} (asked : readInvocation files words = .ok ⟨level, request⟩)
    (ends : Console.Ends { files, logging := ({} : Logging).setLevel rootLogger level } setting
      (perform request) Done Stopped) :
    (∃ value, (follow setting files words).stop = none ∧
      Done value (follow setting files words).console) ∨
    ∃ stop, (follow setting files words).stop = some stop ∧
      Stopped stop (follow setting files words).console := by
  unfold follow
  rw [asked]
  dsimp only
  rcases ends with ⟨ran, done⟩ | ⟨ran, stopped⟩
  · rw [ran]
    exact .inl ⟨_, rfl, done⟩
  · rw [ran]
    exact .inr ⟨_, rfl, stopped⟩

/-- A command line that asks for a check stops as the check does. -/
theorem follow_stop_of_check {files : Files} {words : List String} {level : Level}
    {request : CheckRequest} {Done : Unit → Console → Prop} {Stopped : Stop → Console → Prop}
    {setting : Setting} (asked : readInvocation files words = .ok ⟨level, .check request⟩)
    (ends : Console.Ends { files, logging := ({} : Logging).setLevel rootLogger level } setting
      (check request) Done Stopped) :
    (∃ value, (follow setting files words).stop = none ∧
      Done value (follow setting files words).console) ∨
    ∃ stop, (follow setting files words).stop = some stop ∧
      Stopped stop (follow setting files words).console :=
  follow_stop_of_ends asked ends

/-- What becomes of a check that stops at its descriptor. -/
theorem descriptor_stop_iff {finished : Finished} {fault : LoadFault}
    (stopped : finished.stop = some (.descriptor fault)) :
    (finished.unanswered?.isSome = true ↔ fault.isFormat = false) ∧
      (fault.isFormat = true → finished.errorLine?.isSome = true ∧ finished.exitCode = 1) := by
  constructor
  · simp [Finished.unanswered?, stopped, Stop.isUnanswered, Option.filter]
  · intro isFormat
    have worded := message?_of_isFormat isFormat
    simp [Finished.errorLine?, Finished.exitCode, stopped, Stop.message?, Stop.isUnanswered,
      Stop.exitCode, Stop.cause?, isFormat, worded]

/-- Loading a regular file gives units or a fault of the format exactly if its content
does not end the loading. A check of such a file that stops at it finds a regular file
there, the same one unless a log file is opened. It stops without an answer exactly if
the content ends the loading, and with a line that says what is wrong otherwise. -/
theorem loading_escapes_iff_content_ends {files : Files} {path : Path} {content : ByteArray}
    (regular : files.entry path = .ok (.file content)) :
    ((∃ fault, loadUnits files path = .error fault ∧ fault.isFormat = false) ↔
      EndsLoading path content) ∧
    ∀ setting words level request fault,
      readInvocation files words = .ok ⟨level, .check request⟩ →
      Path.ofText request.tree = path →
      (follow setting files words).stop = some (.descriptor fault) →
      ∃ held, (follow setting files words).console.files.entry path = .ok (.file held) ∧
        (given? request.logFile = none → held = content) ∧
        ((follow setting files words).unanswered?.isSome = true ↔ EndsLoading path held) ∧
        (¬EndsLoading path held → (follow setting files words).errorLine?.isSome = true ∧
          (follow setting files words).exitCode = 1) := by
  refine ⟨loadUnits_unformatted_iff regular, ?_⟩
  rintro setting words level request fault asked rfl stopped
  rcases follow_stop_of_check asked (check_ends files _ rfl setting request) with
    ⟨_, finished, _⟩ | ⟨stop, halted, ended⟩
  · rw [stopped] at finished
    cases finished
  · rw [stopped] at halted
    cases halted
    rcases ended fault rfl with ⟨grown, unlogged, failed⟩
    rcases grown.entry_file regular with ⟨held, found⟩
    rcases descriptor_stop_iff stopped with ⟨unanswered, answered⟩
    have ends : fault.isFormat = false ↔ EndsLoading (Path.ofText request.tree) held := by
      rw [← loadUnits_unformatted_iff found, failed]
      simp
    refine ⟨held, found, ?_, unanswered.trans ends, ?_⟩
    · intro closed
      rw [unlogged closed, regular] at found
      cases found
      rfl
    · intro lasts
      apply answered
      cases isFormat : fault.isFormat with
      | true => rfl
      | false => exact absurd (ends.mp isFormat) lasts

/-- An impossible date as the name of a unit ends the loading. -/
theorem loading_escapes_at_impossible_date :
    let content := "name: 2001-99-99".toUTF8
    let files := Files.empty.withFile (.ofText "t.yaml") content
    loadUnits files (.ofText "t.yaml") = .error (.scalar (.calendar .month)) ∧
      EndsLoading (.ofText "t.yaml") content := by
  intro content files
  have regular : files.entry (.ofText "t.yaml") = .ok (.file content) := by
    decide +kernel
  have failed : loadUnits files (.ofText "t.yaml") = .error (.scalar (.calendar .month)) := by
    decide +kernel
  exact ⟨failed, (loading_escapes_iff_content_ends regular).1.mp ⟨_, failed, rfl⟩⟩

end CompilePolicy.CommandLine

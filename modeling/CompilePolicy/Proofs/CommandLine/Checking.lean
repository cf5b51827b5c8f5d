import CompilePolicy.Proofs.CommandLine.Asking
import CompilePolicy.Proofs.CommandLine.Printing
import CompilePolicy.Proofs.Policy.SourceFile
import CompilePolicy.Proofs.Report.Export

/-!
# Checks of units that are loaded

A check prints a line for each violation, a line with the counts, and with an export
the line that says where the reports are. It completes if all these lines can be
printed and the reports can be written, and its exit code says then whether there is
a violation. A check that does not complete stops with a fault that the program has
no answer for.
-/

namespace CompilePolicy.CommandLine

open CompilePolicy.Decimal CompilePolicy.Descriptor CompilePolicy.FileSystem
open CompilePolicy.Journal

/-! ## What a check prints and writes -/

/-- The line with the counts of a check. -/
def countLine (config : Configuration) (skipped : List String) (units : List CompilationUnit) :
    String :=
  "Checked " ++ natText (Policy.checked config units).length ++ " classes in " ++
    natText (Policy.walked config units).length ++ " units (" ++
    natText (units.filter (Policy.IsSkipped config ·)).length ++ " skipped, " ++
    natText (Policy.exempt config units).length ++ " exempt): " ++
    natText ((Policy.checked config units).filter (¬Policy.ChoosesMode ·)).length ++
    " annotated, " ++ natText (Policy.found config skipped units).length ++ " diagnostics"

/-- The line that says where the reports are. -/
def savedLine (directory : String) : String :=
  "Output saved to: " ++ (Path.ofText directory).text

/-- The lines that say what a check found. -/
def resultLines (config : Configuration) (skipped : List String) (units : List CompilationUnit) :
    List String :=
  (Policy.found config skipped units).map
      (fun violation => violationLine (violation.report config)) ++
    [countLine config skipped units]

/-- The lines that a check prints. -/
def checkLines (request : CheckRequest) (config : Configuration) (units : List CompilationUnit) :
    List String :=
  resultLines config request.skipped units ++ (given? request.out).toList.map savedLine

/-- What the reports of a check are made of. -/
def checkContent (setting : Setting) (request : CheckRequest) (config : Configuration)
    (units : List CompilationUnit) (seconds : Float) : Report.Content where
  now := setting.now
  outcome := { Policy.total config request.skipped units with seconds }
  configuration := some config
  tree := some (Path.ofText request.tree).text

/-- A check completes: its lines can be printed, and its reports written if it has to. -/
structure Completes (files : Files) (request : CheckRequest) (config : Configuration)
    (units : List CompilationUnit) : Prop where
  lines : ∀ line ∈ checkLines request config units, IsPrintable line
  reports : ∀ directory, given? request.out = some directory →
    Report.CanHold files (.ofText directory) ∧
      Report.CanEncode (Policy.total config request.skipped units).diagnostics

/-- What a check that completes leaves: all its lines, and its reports in their
directory. -/
structure IsDone (setting : Setting) (files : Files) (request : CheckRequest)
    (config : Configuration) (units : List CompilationUnit) (console : Console) : Prop where
  completes : Completes files request config units
  output : console.output = printed (checkLines request config units)
  files : given? request.out = none → console.files = files
  reports : ∃ seconds, ∀ directory, given? request.out = some directory → ∀ format,
    (checkContent setting request config units seconds).StandsIn console.files
      (.ofText directory) format

theorem isPrintable_countLine (config : Configuration) (skipped : List String)
    (units : List CompilationUnit) : IsPrintable (countLine config skipped units) := by
  apply isPrintable_of_isPlain
  unfold countLine
  simp only [Text.isPlain_append, Text.isPlain_natText, and_true]
  decide

theorem summaryLine_eq (config : Configuration) (skipped : List String)
    (units : List CompilationUnit) (seconds : Float) :
    summaryLine { Policy.total config skipped units with seconds } =
      countLine config skipped units := by
  unfold summaryLine countLine
  simp only [Policy.classesChecked_total, Policy.unitsProcessed_total,
    Policy.unitsSkipped_total, Policy.classesExempt_total, Policy.classesAnnotated_total,
    Policy.length_diagnostics_total, List.length_map]

/-- The lines of diagnostics do not show the marker. -/
theorem violationLines_eq (config : Configuration) (skipped : List String)
    (units : List CompilationUnit) :
    (Policy.total config skipped units).diagnostics.map violationLine =
      (Policy.found config skipped units).map fun violation =>
        violationLine (violation.report config) := by
  apply Policy.map_diagnostics_total
  intro unitName decl check
  simp [violationLine, Policy.Check.report, Subject.kind, Subject.name, Node.kind, Node.name]

theorem hasErrors_iff (config : Configuration) (skipped : List String)
    (units : List CompilationUnit) (seconds : Float) :
    Outcome.hasErrors { Policy.total config skipped units with seconds } = true ↔
      Policy.HasViolation config skipped units := by
  have lengths := Policy.length_diagnostics_total config skipped units
  rw [← Policy.found_ne_nil_iff, Outcome.hasErrors, Bool.not_eq_true', ← Bool.not_eq_true,
    List.isEmpty_iff, ← List.length_eq_zero_iff, lengths, List.length_eq_zero_iff]

theorem isPlain_of_mem_rulesRun {config : Configuration} {skipped : List String}
    {units : List CompilationUnit} :
    ∀ id ∈ (Policy.total config skipped units).rulesRun, Text.IsPlain id := by
  intro id listed
  rw [Policy.rulesRun_total] at listed
  split at listed
  · cases listed
  · obtain ⟨check, -, rfl⟩ := List.mem_map.mp listed
    cases check <;> decide

/-- The lines of diagnostics and one further line are printed like one list of lines. -/
theorem printEach_eq (diagnostics : List Diagnostic) (last : String) (next : InConsole Unit) :
    (do
      diagnostics.forM fun diagnostic => Console.printLine (violationLine diagnostic)
      Console.printLine last
      next) =
      ((diagnostics.map violationLine ++ [last]).forM Console.printLine >>= fun _ => next) := by
  simp only [List.forM_eq_forM, List.forM_append, List.forM_map, List.forM_cons, List.forM_nil,
    bind_assoc, pure_bind]

namespace IsQuiet

variable {files : Files} {output : String} {console : Console}
variable (quiet : IsQuiet files output console) (setting : Setting) (request : CheckRequest)
variable (config : Configuration) (units : List CompilationUnit)
include quiet

/-- An export writes all reports and says so, or something keeps it from that. -/
theorem ends_exportTo (seconds : Float) (directory : String) :
    let isAble := Report.CanHold files (.ofText directory) ∧
      Report.CanEncode (Policy.total config request.skipped units).diagnostics
    Console.Ends console setting
      (exportTo (.ofText directory) config (.ofText request.tree)
        { Policy.total config request.skipped units with seconds })
      (fun _ after => (isAble ∧ IsPrintable (savedLine directory)) ∧
        after.output = output ++ printed [savedLine directory] ∧
        ∀ format, (checkContent setting request config units seconds).StandsIn after.files
          (.ofText directory) format)
      (fun stop _ => ¬(isAble ∧ IsPrintable (savedLine directory)) ∧
        stop.isUnanswered = true) := by
  intro isAble
  let content := checkContent setting request config units seconds
  have named : ∀ id ∈ content.outcome.rulesRun, Text.IsPlain id := isPlain_of_mem_rulesRun
  have able : (Report.exportAll files content (.ofText directory)).fault = none ↔ isAble := by
    rw [(Report.exportAll_spec ..).1, ← Report.canEncode_iff named]
    exact Iff.rfl
  have standing := (Report.exportAll_spec files content (.ofText directory)).2
  unfold exportTo
  refine Console.ends_bind_of_ok (Console.run_read console setting) ?_
  refine Console.ends_bind_of_ok (Console.run_get console setting) ?_
  refine Console.ends_bind_of_ok (Console.run_modify ..) ?_
  rw [quiet.files]
  have still : IsQuiet (Report.exportAll files content (.ofText directory)).files output
      { console with files := (Report.exportAll files content (.ofText directory)).files } :=
    ⟨quiet.unlogged, rfl, quiet.output⟩
  split
  · rename_i fault failed
    refine Console.ends_throw ⟨fun both => ?_, rfl⟩
    cases failed.symm.trans (able.mpr both.1)
  · rename_i unfailing
    refine (still.ends_printLine setting (savedLine directory)).mono ?_ ?_
    · rintro _ after ⟨printable, quiet⟩
      refine ⟨⟨able.mp unfailing, printable⟩, quiet.output, ?_⟩
      rw [quiet.files]
      exact standing unfailing
    · rintro stop after ⟨unprintable, escapes, -⟩
      exact ⟨fun both => unprintable both.2, escapes⟩

end IsQuiet

/-! ## Checks -/

/-- The rest of a check ends as it has to: it completes, and stops for violations exactly
if there are some, or it stops with a fault that the program has no answer for. -/
abbrev EndsDuly (setting : Setting) (files : Files) (request : CheckRequest)
    (config : Configuration) (units : List CompilationUnit) (console : Console)
    (part : InConsole Unit) : Prop :=
  Console.Ends console setting part
    (fun _ after => ¬Policy.HasViolation config request.skipped units ∧
      IsDone setting files request config units after)
    (fun stop after =>
      (stop = .violations ∧ Policy.HasViolation config request.skipped units ∧
        IsDone setting files request config units after) ∨
      (¬Completes files request config units ∧ stop.isUnanswered = true))

section

variable {setting : Setting} {files : Files} {request : CheckRequest} {config : Configuration}
variable {units : List CompilationUnit} {console : Console}

theorem IsDone.endsDuly (done : IsDone setting files request config units console)
    (seconds : Float) :
    EndsDuly setting files request config units console
      (if Outcome.hasErrors { Policy.total config request.skipped units with seconds } = true then
        throw Stop.violations else pure ()) := by
  have errors := hasErrors_iff config request.skipped units seconds
  split
  · rename_i some
    exact Console.ends_throw (.inl ⟨rfl, errors.mp some, done⟩)
  · rename_i none
    exact Console.ends_pure ⟨fun some => none (errors.mpr some), done⟩

/-- With its results printed, a check that exports nothing is done. -/
theorem IsQuiet.isDone
    (quiet : IsQuiet files (printed (resultLines config request.skipped units)) console)
    (printable : ∀ line ∈ resultLines config request.skipped units, IsPrintable line)
    (asked : given? request.out = none) :
    IsDone setting files request config units console := by
  have lines : checkLines request config units = resultLines config request.skipped units := by
    rw [checkLines, asked]
    exact List.append_nil _
  have unasked : ∀ directory, given? request.out ≠ some directory := by
    simp [asked]
  refine ⟨⟨lines ▸ printable, ?_⟩, lines ▸ quiet.output, fun _ => quiet.files, 0, ?_⟩
  · exact fun directory given => absurd given (unasked directory)
  · exact fun directory given => absurd given (unasked directory)

/-- With its results printed, a check that exports is done if it can export. -/
theorem IsQuiet.endsDuly_export
    (quiet : IsQuiet files (printed (resultLines config request.skipped units)) console)
    (printable : ∀ line ∈ resultLines config request.skipped units, IsPrintable line)
    {directory : String} (asked : given? request.out = some directory) (seconds : Float) :
    Console.Ends console setting
      (exportTo (.ofText directory) config (.ofText request.tree)
        { Policy.total config request.skipped units with seconds })
      (fun _ after => IsDone setting files request config units after)
      (fun stop _ => ¬Completes files request config units ∧ stop.isUnanswered = true) := by
  have lines : checkLines request config units =
      resultLines config request.skipped units ++ [savedLine directory] := by
    rw [checkLines, asked]
    rfl
  have same : ∀ {other}, given? request.out = some other → other = directory := by
    simp [asked]
  refine (quiet.ends_exportTo setting request config units seconds directory).mono ?_ ?_
  · rintro _ after ⟨⟨able, saved⟩, output, standing⟩
    refine ⟨⟨?_, ?_⟩, ?_, by simp [asked], seconds, ?_⟩
    · rw [lines, List.forall_mem_append]
      exact ⟨printable, List.forall_mem_singleton.mpr saved⟩
    · intro other given
      rw [same given]
      exact able
    · rw [output, lines, printed_append]
    · intro other given
      rw [same given]
      exact standing
  · rintro stop after ⟨unable, escapes⟩
    refine ⟨fun completes => unable ⟨completes.reports directory asked, ?_⟩, escapes⟩
    apply completes.lines
    rw [lines]
    exact List.mem_append_right _ (List.mem_singleton_self _)

/-- The results of a check are all printed, or those in front of the first one that cannot
be. -/
theorem IsQuiet.ends_results (quiet : IsQuiet files "" console) (setting : Setting)
    (seconds : Float) {next : InConsole Unit} {Done : Unit → Console → Prop}
    {Stopped : Stop → Console → Prop} :
    let outcome : Outcome := { Policy.total config request.skipped units with seconds }
    let results := resultLines config request.skipped units
    (∀ after, IsQuiet files (printed results) after → (∀ line ∈ results, IsPrintable line) →
      Console.Ends after setting next Done Stopped) →
    (∀ stop after, ¬(∀ line ∈ results, IsPrintable line) → stop.isUnanswered = true →
      IsQuiet files (printed (results.takeWhile (IsPrintable ·))) after → Stopped stop after) →
    Console.Ends console setting (do
      outcome.diagnostics.forM fun diagnostic => Console.printLine (violationLine diagnostic)
      Console.printLine (summaryLine outcome)
      next) Done Stopped := by
  intro outcome results later stopped
  have lines : outcome.diagnostics.map violationLine ++ [summaryLine outcome] = results := by
    rw [violationLines_eq, summaryLine_eq]
    rfl
  have each := quiet.ends_printEach setting results id
  rw [List.map_id, String.empty_append, String.empty_append] at each
  rw [printEach_eq, lines]
  refine (each.mono (fun _ _ => id) ?_).bind ?_
  · rintro stop after ⟨unprintable, escapes, quiet⟩
    exact stopped stop after unprintable escapes quiet
  · rintro _ after ⟨printable, quiet⟩
    exact later after quiet printable

/-- A check of units ends as it has to. -/
theorem IsQuiet.endsDuly_checkUnits (quiet : IsQuiet files "" console) :
    EndsDuly setting files request config units console (checkUnits request config units) := by
  unfold checkUnits
  refine (quiet.ends_outcomeFor setting config request.skipped units).bind ?_
  rintro _ after ⟨⟨seconds, rfl⟩, quiet⟩
  refine quiet.ends_results setting seconds (fun after quiet printable => ?_) ?_
  · cases asked : given? request.out with
    | none => exact (quiet.isDone printable asked).endsDuly seconds
    | some directory =>
        refine ((quiet.endsDuly_export printable asked seconds).mono (fun _ _ => id) ?_).bind ?_
        · exact fun _ _ stopped => .inr stopped
        · exact fun _ _ done => done.endsDuly seconds
  · intro stop after unprintable escapes _
    refine .inr ⟨fun completes => unprintable fun line listed => ?_, escapes⟩
    exact completes.lines line (List.mem_append_left _ listed)

/-- A check without a log file ends as what it does with the units, if there are a
configuration and units. -/
theorem ends_check_of_loaded {logging : Logging} {properties : Properties}
    {records : List Record} {Done : Unit → Console → Prop} {Stopped : Stop → Console → Prop}
    (closed : logging.files = []) (unlogged : given? request.logFile = none)
    (registered : ∀ id ∈ request.skipped, id ∈ Registry.builtIn.ids)
    (built : Properties.build setting.vars request.properties = .ok properties)
    (resolved : resolveConfiguration files properties = .ok (config, records))
    (loaded : loadUnits files (.ofText request.tree) = .ok units)
    (later : ∀ before, IsQuiet files "" before →
      Console.Ends before setting (checkUnits request config units) Done Stopped) :
    Console.Ends { files, logging } setting (check request) Done Stopped := by
  have quiet : IsQuiet files "" { files, logging } := ⟨closed, rfl, rfl⟩
  rw [check_eq, unlogged]
  unfold checkTree
  refine (quiet.ends_refuseUnknown setting registered).bind fun _ _ quiet => ?_
  refine (quiet.ends_propertiesFor setting built).bind ?_
  rintro _ _ ⟨rfl, quiet⟩
  refine (quiet.ends_resolvedFor setting resolved).bind ?_
  rintro _ _ ⟨rfl, quiet⟩
  refine (quiet.ends_log setting _).bind fun _ _ quiet => ?_
  refine (quiet.ends_loadedFrom setting loaded).bind ?_
  rintro _ _ ⟨rfl, quiet⟩
  exact later _ quiet

/-- A check without a log file ends as it has to if there are a configuration and units. -/
theorem endsDuly_check {logging : Logging} {properties : Properties} {records : List Record}
    (closed : logging.files = []) (unlogged : given? request.logFile = none)
    (registered : ∀ id ∈ request.skipped, id ∈ Registry.builtIn.ids)
    (built : Properties.build setting.vars request.properties = .ok properties)
    (resolved : resolveConfiguration files properties = .ok (config, records))
    (loaded : loadUnits files (.ofText request.tree) = .ok units) :
    EndsDuly setting files request config units { files, logging } (check request) :=
  ends_check_of_loaded closed unlogged registered built resolved loaded
    fun _ quiet => quiet.endsDuly_checkUnits

end

/-! ## The program -/

theorem exitCode_of_isUnanswered {stop : Stop} (escapes : stop.isUnanswered = true) :
    stop.exitCode = 1 := by
  cases stop with
  | usage fault => exact if_pos escapes
  | descriptor | source | log | report | unencodable | violations => rfl

/-- Without violations a check completes if it can write its reports and say where. -/
theorem completes_iff_of_not_hasViolation {files : Files} {request : CheckRequest}
    {config : Configuration} {units : List CompilationUnit}
    (clean : ¬Policy.HasViolation config request.skipped units) :
    Completes files request config units ↔
      ∀ directory, given? request.out = some directory →
        Report.CanHold files (.ofText directory) ∧ IsPrintable (savedLine directory) := by
  have none : Policy.found config request.skipped units = [] :=
    Decidable.byContradiction fun some => clean (Policy.found_ne_nil_iff.mp some)
  have quiet : (Policy.total config request.skipped units).diagnostics = [] := by
    rw [← List.length_eq_zero_iff, Policy.length_diagnostics_total, none]
    rfl
  have lines : checkLines request config units =
      countLine config request.skipped units :: (given? request.out).toList.map savedLine := by
    rw [checkLines, resultLines, none]
    rfl
  constructor
  · rintro ⟨printable, able⟩ directory asked
    refine ⟨(able directory asked).1, printable _ ?_⟩
    rw [lines, asked]
    exact List.mem_cons_of_mem _ (List.mem_singleton_self _)
  · intro able
    constructor
    · rw [lines, List.forall_mem_cons]
      refine ⟨isPrintable_countLine .., ?_⟩
      intro line listed
      rcases List.mem_map.mp listed with ⟨directory, asked, rfl⟩
      exact (able directory (Option.mem_toList.mp asked)).2
    · intro directory asked
      rw [quiet]
      exact ⟨(able directory asked).1, Report.canEncode_nil⟩

/-- A check without a log file that completes is not stopped if there is no violation. -/
theorem follow_stop_eq_none {setting : Setting} {files : Files} {words : List String}
    {level : Level} {request : CheckRequest} {properties : Properties} {config : Configuration}
    {records : List Record} {units : List CompilationUnit}
    (asked : readInvocation files words = .ok ⟨level, .check request⟩)
    (unlogged : given? request.logFile = none)
    (registered : ∀ id ∈ request.skipped, id ∈ Registry.builtIn.ids)
    (built : Properties.build setting.vars request.properties = .ok properties)
    (resolved : resolveConfiguration files properties = .ok (config, records))
    (loaded : loadUnits files (.ofText request.tree) = .ok units)
    (clean : ¬Policy.HasViolation config request.skipped units)
    (completes : Completes files request config units) :
    (follow setting files words).stop = none := by
  rcases follow_stop_of_check asked
    (endsDuly_check rfl unlogged registered built resolved loaded) with
    ⟨-, unstopped, -⟩ | ⟨_, -, ⟨-, violated, -⟩ | ⟨incomplete, -⟩⟩
  · exact unstopped
  · exact absurd violated clean
  · exact absurd completes incomplete

/-- A check without a log file, of units that are loaded, with a configuration that is
resolved and ids of rules that there are. Its exit code is one if there is a violation in
a unit that is not skipped, at a node of a class that is not exempt, by a check that is
asked for and not left out, and zero if there is none, as long as it completes: its lines
can be printed, and with an export its reports can be written. Then it prints a line for
each violation and one with the true counts, and all four reports stand in their
directory. A check that does not complete stops with a fault that the program has no
answer for. Where there is no violation only an export can keep it from completing. -/
theorem check_follows_policy {setting : Setting} {files : Files} {words : List String}
    {level : Level} {request : CheckRequest} {properties : Properties} {config : Configuration}
    {records : List Record} {units : List CompilationUnit}
    (asked : readInvocation files words = .ok ⟨level, .check request⟩)
    (unlogged : given? request.logFile = none)
    (registered : ∀ id ∈ request.skipped, id ∈ Registry.builtIn.ids)
    (built : Properties.build setting.vars request.properties = .ok properties)
    (resolved : resolveConfiguration files properties = .ok (config, records))
    (loaded : loadUnits files (.ofText request.tree) = .ok units) :
    let finished := follow setting files words
    let isViolated := Policy.HasViolation config request.skipped units
    let completes := Completes files request config units
    (finished.exitCode = 1 ↔ isViolated ∨ ¬completes) ∧
      (finished.exitCode = 0 ↔ ¬isViolated ∧ completes) ∧
      (finished.unanswered?.isSome = true ↔ ¬completes) ∧
      (completes → IsDone setting files request config units finished.console) ∧
      (¬isViolated → (completes ↔ ∀ directory, given? request.out = some directory →
        Report.CanHold files (.ofText directory) ∧ IsPrintable (savedLine directory))) := by
  intro finished isViolated completes
  have duly := follow_stop_of_check asked
    (endsDuly_check rfl unlogged registered built resolved loaded)
  rcases duly with ⟨_, through, clean, done⟩ |
    ⟨_, halted, ⟨rfl, violated, done⟩ | ⟨incomplete, escapes⟩⟩
  · have code : finished.exitCode = 0 := by
      rw [Finished.exitCode, through]
      rfl
    have answered : finished.unanswered? = none := by
      rw [Finished.unanswered?, through]
      rfl
    simp only [code, answered]
    exact ⟨by simp [isViolated, completes, clean, done.completes],
      by simp [isViolated, completes, clean, done.completes],
      by simp [completes, done.completes], fun _ => done, completes_iff_of_not_hasViolation⟩
  · have code : finished.exitCode = 1 := by
      rw [Finished.exitCode, halted]
      rfl
    have answered : finished.unanswered? = none := by
      rw [Finished.unanswered?, halted]
      rfl
    simp only [code, answered]
    exact ⟨by simp [isViolated, violated], by simp [isViolated, violated],
      by simp [completes, done.completes], fun _ => done, completes_iff_of_not_hasViolation⟩
  · have code : finished.exitCode = 1 := by
      rw [Finished.exitCode, halted]
      exact exitCode_of_isUnanswered escapes
    have unanswered : finished.unanswered?.isSome = true := by
      rw [Finished.unanswered?, halted]
      simp [Option.filter, escapes]
    simp only [code, unanswered]
    exact ⟨by simp [completes, incomplete], by simp [completes, incomplete],
      by simp [completes, incomplete], fun complete => absurd complete incomplete,
      completes_iff_of_not_hasViolation⟩

/-! ## A check for types of one descriptor -/

/-- A configuration under which everything has to have a type. -/
def typedOnly : Configuration := { dynamicTypingAllowed := false, source := "conventions" }

/-- A check of a descriptor that asks for types and nothing else. -/
def typesRequest : CheckRequest := checkAsked "t.json" [(.conventions, "defAllowed: false")]

theorem readInvocation_types (text : String) :
    readInvocation (oneFile text) ["check", "t.json", "-c", "defAllowed: false"] =
      .ok ⟨.warning, .check typesRequest⟩ := by
  have accepted : ∀ one ∈ [(CommandOption.conventions, "defAllowed: false")],
      optionFault? (oneFile text) (checkSaid "t.json" [(.conventions, "defAllowed: false")]) one.1 =
        none :=
    List.forall_mem_singleton.mpr rfl
  exact @readInvocation_oneFile text .warning (by decide) _ (by decide) accepted

theorem build_types :
    Properties.build [] typesRequest.properties =
      .ok [(Properties.conventions, "defAllowed: false")] := by
  decide +kernel

/-- The source of conventions is no file, so the descriptor has no part in the resolution. -/
theorem resolve_types (text : String) : ∃ records,
    resolveConfiguration (oneFile text) [(Properties.conventions, "defAllowed: false")] =
      .ok (typedOnly, records) := by
  have alone : resolveConfiguration .empty [(Properties.conventions, "defAllowed: false")] =
      .ok (typedOnly,
        [⟨resolutionLogger, .debug, "Recognized conventions: defAllowed"⟩, typedOnly.record]) := by
    decide +kernel
  refine ⟨_, (resolveConfiguration_congr_files fun source led => ?_).trans alone⟩
  cases led
  exact fun bytes => Iff.rfl

/-- A unit in which a field has no type. -/
def untypedUnits (name : String) : List CompilationUnit :=
  [{ name, targetDirectory := some "o",
     classes := [{ name := "A", fields := [{ name := "x", isDynamic := true }] }] }]

/-- The check prints a line for the field, whatever the name of the unit. -/
theorem resultLines_untypedUnits (name : String) :
    resultLines typedOnly typesRequest.skipped (untypedUnits name) =
      [name ++ ": A field 'x': def is not allowed for variables.",
       "Checked 1 classes in 1 units (0 skipped, 0 exempt): 1 annotated, 1 diagnostics"] := by
  have found : (Policy.found typedOnly typesRequest.skipped (untypedUnits name)).map
      (fun violation => violationLine (violation.report typedOnly)) =
        [name ++ ": " ++ "A" ++ " " ++ "field" ++ " '" ++ "x" ++ "': " ++
          "def is not allowed for variables."] := rfl
  have counted : countLine typedOnly typesRequest.skipped (untypedUnits name) =
      "Checked 1 classes in 1 units (0 skipped, 0 exempt): 1 annotated, 1 diagnostics" :=
    (rfl : _ = countLine typedOnly [] (untypedUnits "")).trans (by decide +kernel)
  rw [resultLines, found, counted]
  simp [String.append_assoc]

/-- A field without a type makes the exit code one, and a line names it. -/
theorem check_follows_policy_at_dynamic_field :
    let text := "\x7b\"name\": \"u\", \"target_directory\": \"o\", \"classes\": " ++
      "[\x7b\"name\": \"A\", \"fields\": [\x7b\"name\": \"x\", \"dynamically_typed\": true\x7d]\x7d]\x7d"
    let files := Files.empty.withFile (.ofText "t.json") text.toUTF8
    let setting : Setting := { now := ⟨⟨2001, 2, 3⟩, 4, 5, 6, 0, none⟩, lineTime := "" }
    let words := ["check", "t.json", "-c", "defAllowed: false"]
    (follow setting files words).exitCode = 1 ∧
      (follow setting files words).unanswered?.isSome = false ∧
      (follow setting files words).console.output =
        "u: A field 'x': def is not allowed for variables.\nChecked 1 classes in 1 units " ++
          "(0 skipped, 0 exempt): 1 annotated, 1 diagnostics\n" := by
  intro text files setting words
  rw [show files = oneFile text from rfl]
  have loaded : loadUnits (oneFile text) (.ofText typesRequest.tree) = .ok (untypedUnits "u") := by
    decide +kernel
  have lines : checkLines typesRequest typedOnly (untypedUnits "u") =
      ["u" ++ ": A field 'x': def is not allowed for variables.",
       "Checked 1 classes in 1 units (0 skipped, 0 exempt): 1 annotated, 1 diagnostics"] := by
    rw [checkLines, resultLines_untypedUnits]
    rfl
  have complete : Completes (oneFile text) typesRequest typedOnly (untypedUnits "u") := by
    constructor
    · rw [lines]
      decide +kernel
    · intro directory given
      cases given
  have violated : Policy.HasViolation typedOnly typesRequest.skipped (untypedUnits "u") :=
    Policy.found_ne_nil_iff.mp (List.isEmpty_eq_false_iff.mp (by decide +kernel))
  obtain ⟨records, resolved⟩ := resolve_types text
  obtain ⟨code, -, answered, done, -⟩ := @check_follows_policy setting _ _ _ _ _ _ _ _
    (readInvocation_types text) rfl (List.forall_mem_nil _) build_types resolved loaded
  have output := (done complete).output
  refine ⟨code.mpr (.inl violated), ?_, ?_⟩
  · exact Bool.eq_false_iff.mpr fun escapes => answered.mp escapes complete
  · rw [output, lines]
    decide +kernel

end CompilePolicy.CommandLine

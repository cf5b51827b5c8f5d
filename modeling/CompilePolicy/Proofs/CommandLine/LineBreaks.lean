import CompilePolicy.Proofs.CommandLine.Checking
import CompilePolicy.Proofs.Text.Lines

/-!
# Violations by line

A check prints each violation as a line, and puts the names in it as they are. A name with a
line feed breaks its line into several, a control sequence in it is left out, and at the first
line that holds a half of a character the printing stops. Where a check exports nothing its
output has one line for each violation and one for the counts exactly if nothing of this
happens.
-/

namespace CompilePolicy.CommandLine

open CompilePolicy.Descriptor CompilePolicy.FileSystem CompilePolicy.Journal CompilePolicy.Text

/-! ## Reading what was printed -/

/-- Printed lines are read as their pieces. -/
theorem linesOf_printed (lines : List String) :
    linesOf (printed lines) = lines.flatMap fun line => splitText '\n' (plainText line) := by
  induction lines with
  | nil => exact linesOf_empty
  | cons line rest ih =>
      have cut : printed (line :: rest) = plainText line ++ "\n" ++ printed rest := by
        simp [printed, String.join_cons]
      rw [cut, linesOf_ended_append, ih, List.flatMap_cons]

/-- A line is read as it is: it can be printed, and printing neither breaks nor changes it. -/
structure IsReadBack (line : String) : Prop where
  isPrintable : IsPrintable line
  unbroken : '\n' ∉ line.toList
  unchanged : plainText line = line

theorem isReadBack_of_isKept {line : String} (kept : IsKept line) : IsReadBack line := by
  refine ⟨?_, kept.not_mem, kept.plainText_eq⟩
  rw [IsPrintable, kept.plainText_eq]
  exact kept.encodes

/-- Lines that are not broken are read one by one. -/
theorem linesOf_printed_of_unbroken {lines : List String}
    (unbroken : ∀ line ∈ lines, '\n' ∉ line.toList) :
    linesOf (printed lines) = lines.map plainText := by
  have pieces : ∀ line ∈ lines, splitText '\n' (plainText line) = [plainText line] :=
    fun line listed => splitText_of_not_mem fun broken =>
      unbroken line listed (mem_of_mem_plainText broken)
  rw [linesOf_printed, List.flatMap_def, List.map_congr_left pieces, ← List.flatMap_def,
    List.map_eq_flatMap]

/-- What is printed of lines up to the first one that cannot be printed is read as these lines
exactly if each of them is read as it is. -/
theorem linesOf_printed_eq_iff {lines : List String} :
    linesOf (printed (lines.takeWhile (IsPrintable ·))) = lines ↔
      ∀ line ∈ lines, IsReadBack line := by
  have front := List.takeWhile_prefix (l := lines) (IsPrintable ·)
  constructor
  · intro same
    have unbroken : ∀ line ∈ lines, '\n' ∉ line.toList := by
      intro line listed
      rw [← same] at listed
      exact not_mem_of_mem_linesOf listed
    rw [linesOf_printed_of_unbroken fun line listed => unbroken line (front.subset listed)] at same
    have whole : lines.takeWhile (IsPrintable ·) = lines :=
      front.eq_of_length (by simpa using congrArg List.length same)
    have printable := List.takeWhile_eq_self_iff.mp whole
    rw [whole] at same
    intro line listed
    refine ⟨of_decide_eq_true (printable line listed), unbroken line listed, ?_⟩
    exact List.map_inj_left.mp (same.trans lines.map_id.symm) line listed
  · intro each
    rw [takeWhile_isPrintable fun line listed => (each line listed).isPrintable,
      linesOf_printed_of_unbroken fun line listed => (each line listed).unbroken]
    exact (List.map_congr_left fun line listed => (each line listed).unchanged).trans lines.map_id

/-! ## Lines of violations -/

/-- The texts in the line of a violation that a descriptor or a configuration gives. -/
def givenTexts (config : Configuration) (violation : Policy.Violation) : List String :=
  violation.unit :: violation.owner :: violation.node.name :: config.allowedExtensions

theorem isKept_message {config : Configuration}
    (kept : ∀ extension ∈ config.allowedExtensions, IsKept extension) (check : Policy.Check) :
    IsKept (check.message config) := by
  have listed : IsKept (", ".intercalate config.allowedExtensions) :=
    isKept_intercalate (by decide) kept
  cases check with
  | classExtensions | methodExtensions =>
      dsimp only [Policy.Check.message, Configuration.extensionsText]
      simp only [isKept_append]
      exact ⟨by decide, ⟨by decide, listed⟩, by decide⟩
  | classMode | fieldType | methodType | methodMode | parameterType =>
      dsimp only [Policy.Check.message]
      decide

theorem isKept_kind (node : Node) : IsKept node.kind := by
  cases node <;> (dsimp only [Node.kind]; decide)

/-- The line of a violation is kept if its texts are. -/
theorem isKept_violationLine {config : Configuration} {violation : Policy.Violation}
    (kept : ∀ text ∈ givenTexts config violation, IsKept text) :
    IsKept (violationLine (violation.report config)) := by
  simp only [givenTexts, List.forall_mem_cons] at kept
  rcases kept with ⟨unit, owner, name, extensions⟩
  unfold violationLine
  simp only [isKept_append]
  exact ⟨⟨⟨⟨⟨⟨⟨⟨unit, by decide⟩, owner⟩, by decide⟩, isKept_kind violation.node⟩, by decide⟩,
    name⟩, by decide⟩, isKept_message extensions violation.check⟩

theorem isKept_countLine (config : Configuration) (skipped : List String)
    (units : List CompilationUnit) : IsKept (countLine config skipped units) := by
  unfold countLine
  simp only [isKept_append, isKept_natText, and_true]
  decide

/-- A line feed in a name is one in the line. -/
theorem lineFeed_mem_violationLine (config : Configuration) {violation : Policy.Violation}
    {name : String} (named : name ∈ [violation.unit, violation.owner, violation.node.name])
    (broken : '\n' ∈ name.toList) :
    '\n' ∈ (violationLine (violation.report config)).toList := by
  simp only [List.mem_cons, List.not_mem_nil, or_false] at named
  simp only [violationLine, String.toList_append, List.mem_append]
  rcases named with rfl | rfl | rfl
  · simp [Policy.Violation.report, Policy.Check.report, broken]
  · simp [Policy.Violation.report, Policy.Check.report, broken]
  · simp [Policy.Violation.report, Policy.Check.report, Subject.name, broken]

/-! ## The output of a check -/

section

variable {setting : Setting} {files : Files} {request : CheckRequest} {config : Configuration}
variable {units : List CompilationUnit} {console : Console}

/-- Without an export a check prints its results up to the first line that cannot be printed,
and nothing else. -/
theorem IsQuiet.output_checkUnits (quiet : IsQuiet files "" console) (setting : Setting)
    (unexported : given? request.out = none) :
    let results := resultLines config request.skipped units
    let IsPrinted := fun after : Console =>
      after.output = printed (results.takeWhile (IsPrintable ·))
    Console.Ends console setting (checkUnits request config units) (fun _ after => IsPrinted after)
      (fun _ after => IsPrinted after) := by
  intro results IsPrinted
  unfold checkUnits
  refine (quiet.ends_outcomeFor setting config request.skipped units).bind ?_
  rintro _ before ⟨⟨seconds, rfl⟩, quiet⟩
  refine quiet.ends_results setting seconds (fun after quiet printable => ?_) ?_
  · have isPrinted : IsPrinted after :=
      quiet.output.trans (congrArg printed (takeWhile_isPrintable printable).symm)
    rw [unexported]
    dsimp only
    split
    · exact Console.ends_throw isPrinted
    · exact Console.ends_pure isPrinted
  · exact fun _ _ _ _ quiet => quiet.output

/-- What a check without a log file and without an export prints. -/
theorem output_follow {words : List String} {level : Level} {properties : Properties}
    {records : List Record}
    (asked : readInvocation files words = .ok ⟨level, .check request⟩)
    (unlogged : given? request.logFile = none) (unexported : given? request.out = none)
    (registered : ∀ id ∈ request.skipped, id ∈ Registry.builtIn.ids)
    (built : Properties.build setting.vars request.properties = .ok properties)
    (resolved : resolveConfiguration files properties = .ok (config, records))
    (loaded : loadUnits files (.ofText request.tree) = .ok units) :
    (follow setting files words).console.output =
      printed ((resultLines config request.skipped units).takeWhile (IsPrintable ·)) := by
  have ends := follow_stop_of_check asked
    (ends_check_of_loaded rfl unlogged registered built resolved loaded
      fun _ quiet => quiet.output_checkUnits setting unexported)
  rcases ends with ⟨_, -, output⟩ | ⟨_, -, output⟩
  · exact output
  · exact output

/-- A check without a log file and without an export, of units that are loaded, with a
configuration that is resolved and ids of rules that there are. It prints the line of each
violation and the line with the counts, up to the first one that cannot be printed, and its
output is read as the pieces of these lines without their control sequences. So there is one
line for each violation, in order and as it has to be, and behind them only the one with the
counts, exactly if all these lines are read as they are. That is so if the names of units,
classes and members and the allowed extensions are free of line feeds, control sequences and
halves of characters, and it is never so with a line feed in a name that is reported. -/
theorem violations_have_own_lines_iff {words : List String} {level : Level}
    {properties : Properties} {records : List Record}
    (asked : readInvocation files words = .ok ⟨level, .check request⟩)
    (unlogged : given? request.logFile = none) (unexported : given? request.out = none)
    (registered : ∀ id ∈ request.skipped, id ∈ Registry.builtIn.ids)
    (built : Properties.build setting.vars request.properties = .ok properties)
    (resolved : resolveConfiguration files properties = .ok (config, records))
    (loaded : loadUnits files (.ofText request.tree) = .ok units) :
    let output := (follow setting files words).console.output
    let results := resultLines config request.skipped units
    let violations := Policy.found config request.skipped units
    output = printed (results.takeWhile (IsPrintable ·)) ∧
      linesOf output = (results.takeWhile (IsPrintable ·)).flatMap
        (fun line => splitText '\n' (plainText line)) ∧
      (linesOf output = results ↔ ∀ line ∈ results, IsReadBack line) ∧
      ((∀ violation ∈ violations, ∀ text ∈ givenTexts config violation, IsKept text) →
        linesOf output = results) ∧
      ((∃ violation ∈ violations, ∃ name ∈ [violation.unit, violation.owner, violation.node.name],
        '\n' ∈ name.toList) → linesOf output ≠ results) := by
  intro output results violations
  have same : output = printed (results.takeWhile (IsPrintable ·)) :=
    output_follow asked unlogged unexported registered built resolved loaded
  have readBack : linesOf output = results ↔ ∀ line ∈ results, IsReadBack line := by
    rw [same]
    exact linesOf_printed_eq_iff
  refine ⟨same, ?_, readBack, fun kept => readBack.mpr ?_, ?_⟩
  · rw [same]
    exact linesOf_printed _
  · refine List.forall_mem_append.mpr ⟨List.forall_mem_map.mpr fun violation listed => ?_, ?_⟩
    · exact isReadBack_of_isKept (isKept_violationLine (kept violation listed))
    · exact List.forall_mem_singleton.mpr (isReadBack_of_isKept (isKept_countLine _ _ _))
  · rintro ⟨violation, listed, name, named, broken⟩ whole
    have isResult : violationLine (violation.report config) ∈ results :=
      List.mem_append_left _ (List.mem_map_of_mem listed)
    exact (readBack.mp whole _ isResult).unbroken (lineFeed_mem_violationLine config named broken)

end

/-- A field without a type has a line of its own. -/
theorem violations_have_own_lines_at_field :
    let text := "\x7b\"name\":\"u\",\"target_directory\":\"o\",\"classes\":" ++
      "[\x7b\"name\":\"A\",\"fields\":[\x7b\"name\":\"x\",\"dynamically_typed\":true\x7d]\x7d]\x7d"
    let files := Files.empty.withFile (.ofText "t.json") text.toUTF8
    let setting : Setting := { now := ⟨⟨2001, 2, 3⟩, 4, 5, 6, 0, none⟩, lineTime := "" }
    let words := ["check", "t.json", "-c", "defAllowed: false"]
    linesOf (follow setting files words).console.output =
      ["u: A field 'x': def is not allowed for variables.",
       "Checked 1 classes in 1 units (0 skipped, 0 exempt): 1 annotated, 1 diagnostics"] := by
  intro text files setting words
  rw [show files = oneFile text from rfl]
  have loaded : loadUnits (oneFile text) (.ofText typesRequest.tree) = .ok (untypedUnits "u") := by
    decide +kernel
  have kept : ∀ violation ∈ Policy.found typedOnly typesRequest.skipped (untypedUnits "u"),
      ∀ text ∈ givenTexts typedOnly violation, IsKept text := by
    decide +kernel
  obtain ⟨records, resolved⟩ := resolve_types text
  obtain ⟨-, -, -, whole, -⟩ := @violations_have_own_lines_iff setting _ _ _ _ _ _ _ _
    (readInvocation_types text) rfl rfl (List.forall_mem_nil _) build_types resolved loaded
  rw [whole kept, resultLines_untypedUnits]
  rfl

/-- With a line feed in the name of a unit one violation is read as two lines. -/
theorem line_feed_breaks_line_of_violation :
    let text := "\x7b\"name\":\"a\\nb\",\"target_directory\":\"o\",\"classes\":" ++
      "[\x7b\"name\":\"A\",\"fields\":[\x7b\"name\":\"x\",\"dynamically_typed\":true\x7d]\x7d]\x7d"
    let files := Files.empty.withFile (.ofText "t.json") text.toUTF8
    let setting : Setting := { now := ⟨⟨2001, 2, 3⟩, 4, 5, 6, 0, none⟩, lineTime := "" }
    let words := ["check", "t.json", "-c", "defAllowed: false"]
    let config : Configuration := { dynamicTypingAllowed := false, source := "conventions" }
    let units : List CompilationUnit :=
      [{ name := "a\nb", targetDirectory := some "o",
         classes := [{ name := "A", fields := [{ name := "x", isDynamic := true }] }] }]
    loadUnits files (.ofText "t.json") = .ok units ∧
      (Policy.found config [] units).length = 1 ∧
      linesOf (follow setting files words).console.output =
        ["a",
         "b: A field 'x': def is not allowed for variables.",
         "Checked 1 classes in 1 units (0 skipped, 0 exempt): 1 annotated, 1 diagnostics"] := by
  intro text files setting words config units
  rw [show files = oneFile text from rfl]
  have loaded : loadUnits (oneFile text) (.ofText typesRequest.tree) = .ok (untypedUnits "a\nb") := by
    decide +kernel
  obtain ⟨records, resolved⟩ := resolve_types text
  have output := @output_follow setting _ _ _ _ _ _ _ _ (readInvocation_types text) rfl rfl
    (List.forall_mem_nil _) build_types resolved loaded
  refine ⟨loaded, by decide +kernel, ?_⟩
  rw [output, resultLines_untypedUnits]
  decide +kernel

end CompilePolicy.CommandLine

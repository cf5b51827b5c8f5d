import CompilePolicy.Proofs.CommandLine.Loading
import CompilePolicy.Proofs.Engine.Execution
import CompilePolicy.Proofs.Engine.Violation
import CompilePolicy.Proofs.Text.Plain

/-!
# Checks without a log file

Where no log file is open, a check leaves the files alone until it exports, and its
output is made of the lines that it prints. A line without bytes stops it. Up to the
outcome each step gives what the library gives, and the outcome is the policy's.
-/

namespace CompilePolicy.CommandLine

open CompilePolicy.Descriptor CompilePolicy.FileSystem CompilePolicy.Journal

/-! ## Printing lines -/

/-- A line can be printed. -/
def IsPrintable (line : String) : Prop :=
  Text.Encodes (Text.plainText line ++ "\n")

instance (line : String) : Decidable (IsPrintable line) :=
  inferInstanceAs (Decidable (Text.Encodes _))

theorem isPrintable_of_isPlain {line : String} (plain : Text.IsPlain line) : IsPrintable line := by
  unfold IsPrintable
  rw [Text.plainText_of_isPlain plain]
  exact Text.encodes_of_isPlain (Text.isPlain_append.mpr ⟨plain, by decide⟩)

/-- Lines that can all be printed end at none of them. -/
theorem takeWhile_isPrintable {lines : List String}
    (printable : ∀ line ∈ lines, IsPrintable line) : lines.takeWhile (IsPrintable ·) = lines :=
  List.takeWhile_eq_self_iff.mpr fun line listed => decide_eq_true (printable line listed)

/-- Lines as they are printed. -/
def printed (lines : List String) : String :=
  String.join (lines.map fun line => Text.plainText line ++ "\n")

theorem printed_append (first second : List String) :
    printed (first ++ second) = printed first ++ printed second := by
  rw [printed, List.map_append, String.join_append]
  rfl

/-- Ids of rules are not refused. -/
theorem refuseUnknown_of_registered {skipped : List String}
    (registered : ∀ id ∈ skipped, id ∈ Registry.builtIn.ids) : refuseUnknown skipped = pure () := by
  have known : skipped.filter (fun id => !Registry.builtIn.ids.contains id) = [] := by
    rw [List.filter_eq_nil_iff]
    intro id listed
    simpa using registered id listed
  unfold refuseUnknown
  rw [known]
  rfl

/-- The outcome is what the policy gives for all units, and what records keep is kept. -/
theorem ends_outcomeFor {Kept : Console → Prop} {console : Console} {setting : Setting}
    {Stopped : Stop → Console → Prop}
    (logs : ∀ (record : Record) (before : Console), Kept before →
      Console.Ends before setting (Console.log record) (fun _ after => Kept after) Stopped)
    (kept : Kept console) (config : Configuration) (skipped : List String)
    (units : List CompilationUnit) :
    Console.Ends console setting (outcomeFor config skipped units)
      (fun outcome after =>
        (∃ seconds, outcome = { Policy.total config skipped units with seconds }) ∧ Kept after)
      Stopped := by
  have ready : Session.IsReady config skipped
      { units
        clock := { tick := setting.tick }
        engine := { configuration := some config, skipped } } :=
    ⟨rfl, rfl, rfl, by simp⟩
  rcases ready.run_executeMany with ⟨merged, last, ran, _, same, _, _⟩
  have asPolicy : ∀ unit, (walkUnit config (Registry.builtIn.activeRules config skipped)
      unit).outcome = Policy.outcome config skipped unit :=
    fun unit => (Policy.walkUnit_builtIn config skipped unit).1
  simp only [asPolicy] at same
  unfold outcomeFor
  refine Console.ends_bind_of_ok (Console.run_read console setting) ?_
  simp only at ran ⊢
  rw [ran]
  refine (ends_logAll logs kept last.records).bind fun _ _ kept => ?_
  exact Console.ends_pure ⟨⟨merged.seconds, Outcome.eq_of_untimed_eq same⟩, kept⟩

/-- A console where no log file is open, with what was printed and the files. -/
structure IsQuiet (files : Files) (output : String) (console : Console) : Prop where
  unlogged : console.logging.files = []
  files : console.files = files
  output : console.output = output

namespace IsQuiet

variable {files : Files} {output : String} {console : Console}
variable {Stopped : Stop → Console → Prop}
variable (quiet : IsQuiet files output console) (setting : Setting)
include quiet

theorem ends_log (record : Record) :
    Console.Ends console setting (Console.log record) (fun _ after => IsQuiet files output after)
      Stopped := by
  refine .value (Console.run_log console setting record) ?_
  constructor <;> dsimp only
  · exact quiet.unlogged
  · rw [log_of_no_files quiet.unlogged]
    exact quiet.files
  · exact quiet.output

theorem ends_logAll (records : List Record) :
    Console.Ends console setting (Console.logAll records)
      (fun _ after => IsQuiet files output after) Stopped :=
  CommandLine.ends_logAll (fun record _ quiet => quiet.ends_log setting record) quiet records

theorem ends_printLine (line : String) :
    Console.Ends console setting (Console.printLine line)
      (fun _ after => IsPrintable line ∧ IsQuiet files (output ++ printed [line]) after)
      (fun stop after => ¬IsPrintable line ∧ stop.isUnanswered = true ∧
        IsQuiet files output after) := by
  refine Console.ends_printLine (fun bytes encoded => ?_) fun fault refused => ?_
  · refine ⟨⟨bytes, encoded⟩, ?_⟩
    constructor <;> dsimp only
    · exact quiet.unlogged
    · exact quiet.files
    · simp [quiet.output, printed]
  · refine ⟨?_, rfl, quiet⟩
    rintro ⟨bytes, encoded⟩
    rw [refused] at encoded
    cases encoded

/-- Lines are all printed, or those in front of the first one that cannot be printed. -/
theorem ends_printEach {α : Type} (items : List α) (line : α → String) :
    Console.Ends console setting (items.forM fun item => Console.printLine (line item))
      (fun _ after => (∀ text ∈ items.map line, IsPrintable text) ∧
        IsQuiet files (output ++ printed (items.map line)) after)
      (fun stop after => (¬∀ text ∈ items.map line, IsPrintable text) ∧
        stop.isUnanswered = true ∧
        IsQuiet files (output ++ printed ((items.map line).takeWhile (IsPrintable ·))) after) := by
  induction items generalizing console output with
  | nil =>
      refine Console.ends_pure ⟨List.forall_mem_nil _, ?_⟩
      simpa [printed] using quiet
  | cons item rest ih =>
      change Console.Ends console setting
        (Console.printLine (line item) >>= fun _ => rest.forM fun item => _) _ _
      simp only [List.map_cons, List.forall_mem_cons]
      refine ((quiet.ends_printLine setting (line item)).mono (fun _ _ => id) ?_).bind ?_
      · rintro stop after ⟨unprintable, escapes, quiet⟩
        refine ⟨fun all => unprintable all.1, escapes, ?_⟩
        rw [List.takeWhile_cons_of_neg (by simpa using unprintable)]
        simpa [printed] using quiet
      · rintro _ after ⟨printable, quiet⟩
        refine (ih quiet).mono ?_ ?_
        · rintro _ last ⟨others, quiet⟩
          refine ⟨⟨printable, others⟩, ?_⟩
          rw [← List.singleton_append, printed_append, ← String.append_assoc]
          exact quiet
        · rintro stop last ⟨unprintable, escapes, quiet⟩
          refine ⟨fun all => unprintable all.2, escapes, ?_⟩
          rw [List.takeWhile_cons_of_pos (by simpa using printable), ← List.singleton_append,
            printed_append, ← String.append_assoc]
          exact quiet

/-! ## Up to the outcome -/

theorem ends_refuseUnknown {skipped : List String}
    (registered : ∀ id ∈ skipped, id ∈ Registry.builtIn.ids) :
    Console.Ends console setting (refuseUnknown skipped)
      (fun _ after => IsQuiet files output after) Stopped := by
  rw [refuseUnknown_of_registered registered]
  exact Console.ends_pure quiet

theorem ends_propertiesFor {options : Properties.Options} {properties : Properties}
    (built : Properties.build setting.vars options = .ok properties) :
    Console.Ends console setting (propertiesFor options)
      (fun value after => value = properties ∧ IsQuiet files output after) Stopped := by
  unfold propertiesFor
  refine Console.ends_bind_of_ok (Console.run_read console setting) ?_
  rw [built]
  exact Console.ends_pure ⟨rfl, quiet⟩

theorem ends_resolvedFor {properties : Properties} {config : Configuration}
    {records : List Record}
    (resolved : resolveConfiguration files properties = .ok (config, records)) :
    Console.Ends console setting (resolvedFor properties)
      (fun value after => value = config ∧ IsQuiet files output after) Stopped := by
  rw [← quiet.files] at resolved
  refine (CommandLine.ends_resolvedFor (fun record _ quiet => quiet.ends_log setting record) quiet
    fun fault failed => ?_).mono ?_ fun _ _ => id
  · cases failed.symm.trans resolved
  · rintro value after ⟨⟨_, same⟩, quiet⟩
    cases same.symm.trans resolved
    exact ⟨rfl, quiet⟩

theorem ends_loadedFrom {path : Path} {units : List CompilationUnit}
    (loaded : loadUnits files path = .ok units) :
    Console.Ends console setting (loadedFrom path)
      (fun value after => value = units ∧ IsQuiet files output after) Stopped := by
  rw [← quiet.files] at loaded
  refine (CommandLine.ends_loadedFrom (fun record _ quiet => quiet.ends_log setting record) quiet
    fun fault failed => ?_).mono ?_ fun _ _ => id
  · cases failed.symm.trans loaded
  · rintro value after ⟨same, quiet⟩
    cases same.symm.trans loaded
    exact ⟨rfl, quiet⟩

/-- The outcome is what the policy gives for all units. -/
theorem ends_outcomeFor (config : Configuration) (skipped : List String)
    (units : List CompilationUnit) :
    Console.Ends console setting (outcomeFor config skipped units)
      (fun outcome after =>
        (∃ seconds, outcome = { Policy.total config skipped units with seconds }) ∧
          IsQuiet files output after) Stopped :=
  CommandLine.ends_outcomeFor (fun record _ quiet => quiet.ends_log setting record) quiet config
    skipped units

end IsQuiet

end CompilePolicy.CommandLine

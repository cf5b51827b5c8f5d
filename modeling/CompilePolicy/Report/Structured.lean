import CompilePolicy.Calendar
import CompilePolicy.Decimal.Places
import CompilePolicy.Engine.Outcome
import CompilePolicy.FileSystem.Path
import CompilePolicy.Json.Writer
import CompilePolicy.Policy.Configuration

/-!
# Structured reports

The full outcome of a run, and the trail of what was run on what, both as JSON
documents with the time at which they were made.
-/

namespace CompilePolicy.Report

open CompilePolicy.Calendar CompilePolicy.Document

/-- The version of the report formats. -/
def formatVersion : String := "1.0"

/-- The places to which times are rounded. -/
def timePlaces : Nat := 4

/-- An outcome as a record. -/
def outcomeFields (outcome : Outcome) : List (String × Value) :=
  [("n_diagnostics", .int outcome.diagnostics.length),
   ("units_processed", .strings outcome.unitsProcessed),
   ("units_skipped", .strings outcome.unitsSkipped),
   ("classes_checked", .strings outcome.classesChecked),
   ("classes_exempt", .strings outcome.classesExempt),
   ("annotated_classes", .strings outcome.classesAnnotated),
   ("rules_run", .strings outcome.rulesRun),
   ("rules_failed", .strings outcome.rulesFailed),
   ("execution_time_seconds", .float (Decimal.roundToPlaces timePlaces outcome.seconds)),
   ("diagnostics", .list (outcome.diagnostics.map fun diagnostic => .record diagnostic.fields))]

/-- The time at which a report is made. -/
def timestamp (now : Moment) : Value :=
  .string (now.text "T")

/-- The full outcome, with the configuration if it is given. -/
def full (now : Moment) (config : Option Configuration) (outcome : Outcome) : String :=
  Json.write (.record (outcomeFields outcome ++
    (config.toList.map fun given => ("configuration", given.toRecord)) ++
    [("export_timestamp", timestamp now), ("export_version", .string formatVersion)]))

/-- A text, or null if there is none. -/
def optional (text : Option String) : Value :=
  (text.map Value.string).getD .null

/-- The trail of a run: which descriptor was checked, where the configuration came
from, and what was walked. -/
def trail (now : Moment) (config : Option Configuration) (tree : Option String)
    (outcome : Outcome) : String :=
  Json.write (.record [
    ("export_timestamp", timestamp now),
    ("export_version", .string formatVersion),
    ("tree_path", optional tree),
    ("configuration_source", optional (config.map (·.source))),
    ("units_processed", .strings outcome.unitsProcessed),
    ("units_skipped", .strings outcome.unitsSkipped),
    ("total_diagnostics", .int outcome.diagnostics.length),
    ("execution_time_seconds", .float outcome.seconds)])

end CompilePolicy.Report

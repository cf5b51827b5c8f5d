import CompilePolicy.Calendar
import CompilePolicy.Decimal.Places
import CompilePolicy.Document.Ordered
import CompilePolicy.Engine.Outcome

/-!
# The report for readers

A Markdown report: a summary table, the rules that ran, and the diagnostics in
one section for each class. Sections stand in the order of their first
diagnostics, and diagnostics in a section in the order in which they were
reported.
-/

namespace CompilePolicy.Report

open CompilePolicy.Calendar CompilePolicy.Decimal

/-- A row of the summary table. -/
def summaryRow (name : String) (count : Nat) : String :=
  "| " ++ name ++ " | " ++ natText count ++ " |"

/-- The lines up to the summary table and its end. -/
def summaryLines (now : Moment) (outcome : Outcome) : List String :=
  ["# Static Compilation Enforcement Report",
   "",
   "**Generated**: " ++ now.readable,
   "**Execution Time**: " ++ fixedText 2 outcome.seconds ++ "s",
   "",
   "## Summary",
   "",
   "| Metric | Value |",
   "|--------|-------|",
   summaryRow "Units Processed" outcome.unitsProcessed.length,
   summaryRow "Units Skipped" outcome.unitsSkipped.length,
   summaryRow "Classes Checked" outcome.classesChecked.length,
   summaryRow "Classes Exempt" outcome.classesExempt.length,
   summaryRow "Classes Annotated" outcome.classesAnnotated.length,
   summaryRow "Diagnostics" outcome.diagnostics.length,
   ""]

/-- The lines that name the rules that ran, if any did. -/
def ruleLines (outcome : Outcome) : List String :=
  if outcome.rulesRun.isEmpty then []
  else ["**Active rules**: " ++ ", ".intercalate outcome.rulesRun, ""]

/-- Diagnostics by owner, in order. -/
abbrev Groups := List (String × List Diagnostic)

/-- Puts a diagnostic last in the group of its owner. An owner without a group gets one,
which comes last. -/
def Groups.add (groups : Groups) (diagnostic : Diagnostic) : Groups :=
  Document.setField groups diagnostic.owner
    ((groups.lookup diagnostic.owner).getD [] ++ [diagnostic])

/-- The groups of diagnostics that come one after the other. -/
def grouped (diagnostics : List Diagnostic) : Groups :=
  diagnostics.foldl Groups.add []

/-- The line of a diagnostic. -/
def bullet (diagnostic : Diagnostic) : String :=
  "- **" ++ diagnostic.ruleId ++ "** " ++ diagnostic.subject.kind ++ " \x60" ++
    diagnostic.subject.name ++ "\x60: " ++ diagnostic.message

/-- The heading of an owner's section. -/
def heading (owner : String) (count : Nat) : String :=
  "### \x60" ++ owner ++ "\x60 (" ++ natText count ++ ")"

/-- The section of an owner with its diagnostics. -/
def sectionLines (group : String × List Diagnostic) : List String :=
  heading group.1 group.2.length :: "" :: (group.2.map bullet ++ [""])

/-- The lines below the heading of the diagnostics. -/
def diagnosticLines (diagnostics : List Diagnostic) : List String :=
  if diagnostics.isEmpty then ["No diagnostics.", ""]
  else (grouped diagnostics).flatMap sectionLines

/-- The lines of the report. -/
def lines (now : Moment) (outcome : Outcome) : List String :=
  summaryLines now outcome ++ ruleLines outcome ++
    ("## Diagnostics" :: "" :: diagnosticLines outcome.diagnostics)

/-- The report. -/
def markdown (now : Moment) (outcome : Outcome) : String :=
  "\n".intercalate (lines now outcome)

end CompilePolicy.Report

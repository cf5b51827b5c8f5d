import CompilePolicy.Rule.Diagnostic

/-!
# Outcomes

What walks over compilation units found and did. Outcomes of several walks are
merged: lists are appended, and the lists of rule ids stay without repeats, in
order of first appearance.
-/

namespace CompilePolicy

/-- The outcome of one or more walks. -/
structure Outcome where
  diagnostics : List Diagnostic := []
  /-- The units that were walked. -/
  unitsProcessed : List String := []
  /-- The units that were skipped. -/
  unitsSkipped : List String := []
  /-- The classes that were checked. -/
  classesChecked : List String := []
  /-- The classes that were exempt. -/
  classesExempt : List String := []
  /-- The classes that were given a marker. -/
  classesAnnotated : List String := []
  /-- The rules that ran. -/
  rulesRun : List String := []
  /-- The rules that failed on some node. -/
  rulesFailed : List String := []
  /-- How long the walks took. -/
  seconds : Float := 0

/-- Adds the ids that are not yet listed, in order. -/
def addMissing (known : List String) (added : List String) : List String :=
  added.foldl (fun ids id => if ids.contains id then ids else ids ++ [id]) known

namespace Outcome

/-- Whether some violation was reported. -/
def hasErrors (outcome : Outcome) : Bool :=
  !outcome.diagnostics.isEmpty

/-- The messages of all diagnostics. -/
def messages (outcome : Outcome) : List String :=
  outcome.diagnostics.map (·.message)

/-- Adds a diagnostic at the end. -/
def addDiagnostic (outcome : Outcome) (diagnostic : Diagnostic) : Outcome :=
  { outcome with diagnostics := outcome.diagnostics ++ [diagnostic] }

/-- Appends another outcome. -/
def merge (first second : Outcome) : Outcome where
  diagnostics := first.diagnostics ++ second.diagnostics
  unitsProcessed := first.unitsProcessed ++ second.unitsProcessed
  unitsSkipped := first.unitsSkipped ++ second.unitsSkipped
  classesChecked := first.classesChecked ++ second.classesChecked
  classesExempt := first.classesExempt ++ second.classesExempt
  classesAnnotated := first.classesAnnotated ++ second.classesAnnotated
  rulesRun := addMissing first.rulesRun second.rulesRun
  rulesFailed := addMissing first.rulesFailed second.rulesFailed
  seconds := first.seconds + second.seconds

end Outcome

end CompilePolicy

import CompilePolicy.CommandLine.Console
import CompilePolicy.CommandLine.Request
import CompilePolicy.Engine.Session
import CompilePolicy.Yaml.Printer

/-!
# Commands

A check prints a line for every violation and one that sums up what was done, and
stops with a cause if there were violations. The configuration is shown as a YAML
document with the rules that it makes active.
-/

namespace CompilePolicy.CommandLine

open CompilePolicy.Calendar CompilePolicy.Decimal CompilePolicy.Document
open CompilePolicy.FileSystem CompilePolicy.Journal

/-- A text that is not empty. -/
def given? (text : Option String) : Option String :=
  text.filter (· ≠ "")

/-- The properties of the environment and of a command's options. -/
def propertiesFor (options : Properties.Options) : InConsole Properties := do
  let setting ← read
  Console.orStop (fun bad => .usage (.badValue "-D" (.noProperty bad)))
    (Properties.build setting.vars options)

/-- Opens the log file of a check. -/
def openLog (path : String) : InConsole Unit := do
  let setting ← read
  let console ← get
  let opened ← Console.orStop .log
    (console.logging.openFile console.files {} setting.now (.ofText path))
  modify fun console => { console with logging := opened.logging, files := opened.files }
  Console.printLine ("Logging to: " ++ opened.path.text)

/-- Refuses ids that no rule has. -/
def refuseUnknown (skipped : List String) : InConsole Unit :=
  let unknown := skipped.filter fun id => !Registry.builtIn.ids.contains id
  if unknown.isEmpty then return ()
  else throw (.usage (.badValue "--skip-rule" (.unknownRules unknown)))

/-- The configuration that properties give. -/
def resolvedFor (properties : Properties) : InConsole Configuration := do
  let (config, records) ←
    Console.orStop .source (resolveConfiguration (← get).files properties)
  Console.logAll records
  return config

/-- What a record of a document ends with. -/
def documentEnd : String := "\n---"

/-- The record of the configuration of a check. -/
def configurationRecord (config : Configuration) : Record :=
  ⟨packageLogger, .info,
    Yaml.printTrimmed (.record [("configuration", config.toRecord)]) ++ documentEnd⟩

/-- The units of a descriptor. -/
def loadedFrom (path : Path) : InConsole (List CompilationUnit) := do
  let units ← Console.orStop .descriptor (Descriptor.loadUnits (← get).files path)
  Console.log (Descriptor.loadedRecord path units)
  return units

/-- The outcome of walking all units. -/
def outcomeFor (config : Configuration) (skipped : List String)
    (units : List CompilationUnit) : InConsole Outcome := do
  let setting ← read
  let session : Session :=
    { units
      clock := { tick := setting.tick }
      engine := { configuration := some config, skipped } }
  let (result, after) := session.run (Session.executeMany (List.range units.length))
  Console.logAll after.records
  Console.orStop .source result

/-- The line of a violation. -/
def violationLine (diagnostic : Diagnostic) : String :=
  diagnostic.unit ++ ": " ++ diagnostic.owner ++ " " ++ diagnostic.subject.kind ++ " '" ++
    diagnostic.subject.name ++ "': " ++ diagnostic.message

/-- The line that sums up a check. -/
def summaryLine (outcome : Outcome) : String :=
  "Checked " ++ natText outcome.classesChecked.length ++ " classes in " ++
    natText outcome.unitsProcessed.length ++ " units (" ++
    natText outcome.unitsSkipped.length ++ " skipped, " ++
    natText outcome.classesExempt.length ++ " exempt): " ++
    natText outcome.classesAnnotated.length ++ " annotated, " ++
    natText outcome.diagnostics.length ++ " diagnostics"

/-- Exports all reports of a check. -/
def exportTo (directory : Path) (config : Configuration) (tree : Path) (outcome : Outcome) :
    InConsole Unit := do
  let setting ← read
  let content : Report.Content :=
    { now := setting.now, outcome, configuration := some config, tree := some tree.text }
  let exported := Report.exportAll (← get).files content directory
  modify fun console => { console with files := exported.files }
  match exported.fault with
  | some fault => throw (.report fault)
  | none => Console.printLine ("Output saved to: " ++ directory.text)

/-- Checks the units of a descriptor. -/
def check (request : CheckRequest) : InConsole Unit := do
  if let some path := given? request.logFile then
    openLog path
  refuseUnknown request.skipped
  let config ← resolvedFor (← propertiesFor request.properties)
  Console.log (configurationRecord config)
  let tree := Path.ofText request.tree
  let units ← loadedFrom tree
  let outcome ← outcomeFor config request.skipped units
  outcome.diagnostics.forM fun diagnostic => Console.printLine (violationLine diagnostic)
  Console.printLine (summaryLine outcome)
  if let some directory := given? request.out then
    exportTo (Path.ofText directory) config tree outcome
  if outcome.hasErrors then
    throw .violations

/-- The rules as a record: all that there are, by scope, and those that are
active. -/
def rulesRecord (config : Configuration) : Value :=
  let available := Registry.builtIn.summary.map fun (scope, ids) =>
    (scope.name, Value.strings ids)
  let active := activeIds config (Registry.builtIn.activeRules config [])
  .record [("available", .record available), ("active", .strings active)]

/-- What is shown of the configuration. Where a source of conventions is read, the
names that it uses are shown too. -/
def configurationFields (properties : Properties) : InConsole (Configuration × Entries) := do
  let isConsole := (properties.textOf? Properties.console).isSome
  match (properties.textOf? Properties.conventions).filter fun _ => !isConsole with
  | some source =>
    let (parsed, records) ← Console.orStop .source (resolveSource (← get).files source)
    Console.logAll records
    return (parsed.configuration,
      [(.string "configuration", parsed.configuration.toRecord),
       (.string "recognized", .strings parsed.recognized),
       (.string "ignored", .strings parsed.ignored)])
  | none =>
    let config ← resolvedFor properties
    return (config, [(.string "configuration", config.toRecord)])

/-- Shows the configuration with its rules. -/
def showConfiguration (options : Properties.Options) : InConsole Unit := do
  let (config, fields) ← configurationFields (← propertiesFor options)
  let document : Value := .map (fields ++ [(.string "rules", rulesRecord config)])
  Console.printLine (Yaml.printTrimmed document)

end CompilePolicy.CommandLine

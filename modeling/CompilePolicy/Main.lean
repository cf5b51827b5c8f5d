import CompilePolicy.CommandLine.Program
import Std.Time.Zoned

/-!
# The command line program

Brings the files that a command line speaks of into a tree of files, follows the
command line, and writes back what has changed.
-/

namespace CompilePolicy.Main

open CompilePolicy.Calendar CompilePolicy.CommandLine CompilePolicy.FileSystem
open CompilePolicy.Journal

/-- The current local time. -/
def currentMoment : IO Moment := do
  let now ← Std.Time.PlainDateTime.now
  return {
    date := ⟨now.year.toInt.toNat, now.month.toNat, now.day.toNat⟩
    hour := now.hour.toNat
    minute := now.minute.toNat
    second := now.second.toNat
    microsecond := now.nanosecond.toNat / 1000
    offset := none }

/-- The environment variables that set properties. -/
def currentVariables : IO Variables :=
  Properties.known.filterMapM fun property => do
    let name := Properties.variableName property
    return (← IO.getEnv name).map fun value => (name, Text.held value)

/-- The result of an action, if it does not fail. -/
def result? {α : Type} (action : IO α) : IO (Option α) :=
  return (← action.toBaseIO).toOption

/-- A text as it is shown. -/
def shownText (text : String) : String :=
  (Text.shown (escapeHalves text)).toOption.getD ""

/-- What stands at a path: a file if its content can be read, and a directory if it
can only be opened. -/
def currentEntry? (path : String) : IO (Option Entry) := do
  match ← result? (IO.FS.readBinFile path) with
  | some content => return some (.file content)
  | none => return (← result? (IO.FS.Handle.mk path .read)).map fun _ => .directory

/-- A path and the ones that lead to it, the shortest first. -/
def waysTo (path : Path) : List Path :=
  (List.range path.parts.length).map fun count =>
    { path with parts := path.parts.take (count + 1) }

/-- Brings what stands at a path, and on the way to it, into the files. -/
def gather (files : Files) (path : Path) : IO Files :=
  (waysTo path).foldlM (fun known way => do
    match known.locate way with
    | .error _ => return known
    | .ok place =>
      if (known.at? place).isSome then return known
      match ← currentEntry? (shownText way.text) with
      | some entry => return known.put place entry
      | none => return known) files

/-- The paths that a text can stand for: itself, a log file under its name with the
time, and the reports in it. -/
def pathsOf (now : Moment) (text : String) : List Path :=
  let path := Path.ofText text
  [path, timedPath now path] ++ Report.Format.all.map fun format => path.child format.fileName

/-- The texts in a word that can be paths: the word, the value of a short option,
and what follows an equals sign. -/
def pathTexts (word : String) : List String :=
  [word, String.ofList (word.toList.drop 2)] ++ (splitOption word).2.toList

/-- The place of a file as a path. -/
def placeText (place : Place) : String :=
  shownText (match place with
    | "/" :: names => "/" ++ "/".intercalate names
    | names => "/".intercalate names)

/-- Writes what has changed. -/
def writeBack (before after : Files) : IO Unit :=
  after.entries.forM fun (place, entry) => do
    if before.at? place = some entry then return
    match entry with
    | .directory => IO.FS.createDirAll (placeText place)
    | .file content => IO.FS.writeBinFile (placeText place) content

/-- Shows the records that the level of the console admits. -/
def showRecords (now : Moment) (console : Console) : IO Unit :=
  console.shown.forM fun record =>
    IO.eprintln (now.clockText ++ " - " ++ record.level.name ++ " - " ++
      shownText record.message)

/-- Shows why the command line was not followed. -/
def showStop (finished : Finished) : IO Unit := do
  match finished.errorLine?, finished.unanswered? with
  | some line, _ => IO.eprintln (shownText line)
  | none, some stop =>
    IO.eprintln ("Failed: " ++ shownText ((stop.cause?).getD "a text has no meaning or no bytes"))
  | none, none => return

/-- Follows a command line. -/
def run (given : List String) : IO UInt32 := do
  let words := given.map Text.held
  let now ← currentMoment
  let vars ← currentVariables
  let texts := (words ++ vars.map (·.2)).flatMap pathTexts
  let files ← (texts.flatMap (pathsOf now)).foldlM gather .empty
  let finished := follow { now, lineTime := now.readable, vars } files words
  writeBack files finished.console.files
  IO.print (shownText finished.console.output)
  showRecords now finished.console
  showStop finished
  return UInt32.ofNat finished.exitCode

end CompilePolicy.Main

/-- The program. -/
def main (words : List String) : IO UInt32 :=
  CompilePolicy.Main.run words

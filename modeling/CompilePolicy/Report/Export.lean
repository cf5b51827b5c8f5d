import CompilePolicy.FileSystem.Basic
import CompilePolicy.Report.Markdown
import CompilePolicy.Report.Structured
import CompilePolicy.Report.Table
import CompilePolicy.Text.Encoding

/-!
# Exports

Reports are written to files, whose directories are made where they are missing.
All reports together go into one directory under fixed names.
-/

namespace CompilePolicy.Report

open CompilePolicy.Calendar CompilePolicy.FileSystem

/-- The reports. -/
inductive Format where
  | json
  | csv
  | markdown
  | provenance
deriving DecidableEq, Repr

/-- All reports in the order in which they are written. -/
def Format.all : List Format :=
  [.json, .csv, .markdown, .provenance]

/-- The name of a format. -/
def Format.name : Format → String
  | .json => "json"
  | .csv => "csv"
  | .markdown => "markdown"
  | .provenance => "provenance"

/-- The file that a report has in a directory of all reports. -/
def Format.fileName : Format → String
  | .json => "enforcement_result.json"
  | .csv => "diagnostics.csv"
  | .markdown => "enforcement_report.md"
  | .provenance => "provenance.json"

/-- What reports are made of. -/
structure Content where
  now : Moment
  outcome : Outcome
  configuration : Option Configuration := none
  /-- The descriptor that was checked. -/
  tree : Option String := none

/-- The text of a report. -/
def Content.text (content : Content) : Format → Except ItemFault String
  | .json => .ok (full content.now content.configuration content.outcome)
  | .csv => table content.outcome.diagnostics
  | .markdown => .ok (Report.markdown content.now content.outcome)
  | .provenance => .ok (trail content.now content.configuration content.tree content.outcome)

/-- Why a report is not written. -/
inductive Fault where
  | file (fault : FileSystem.Fault)
  | item (fault : ItemFault)
  /-- The report holds half of a character. -/
  | unencodable (fault : Text.EncodingFault)
deriving DecidableEq, Repr

/-- The message of a fault, but for the words of a codec. -/
def Fault.message? : Fault → Option String
  | .file inner => some inner.message
  | .item inner => some inner.message
  | .unencodable _ => none

/-- Writes a report to a file. -/
def exportOne (files : Files) (content : Content) (format : Format) (path : Path) :
    Except Fault Files := do
  let prepared ← (files.makeDirectories path.parent).mapError .file
  let text ← (content.text format).mapError .item
  let bytes ← (Text.encode text).mapError .unencodable
  (prepared.write path bytes).mapError .file

/-- What exporting several reports gives: the files after it, and the fault that
ended it. Reports that were written before a fault stay. -/
structure Exported where
  files : Files
  fault : Option Fault := none

/-- Writes several reports into a directory. -/
def exportEach (content : Content) (directory : Path) : List Format → Files → Exported
  | [], files => { files }
  | format :: rest, files =>
    match exportOne files content format (directory.child format.fileName) with
    | .error fault => { files, fault := some fault }
    | .ok written => exportEach content directory rest written

/-- Writes all reports into a directory. -/
def exportAll (files : Files) (content : Content) (directory : Path) : Exported :=
  match files.makeDirectories directory with
  | .error fault => { files, fault := some (.file fault) }
  | .ok prepared => exportEach content directory Format.all prepared

end CompilePolicy.Report

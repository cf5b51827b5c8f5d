import CompilePolicy.CommandLine.Usage
import CompilePolicy.Journal.Logging
import CompilePolicy.Policy.Source
import CompilePolicy.Report.Export
import CompilePolicy.Text.Encoding
import CompilePolicy.Text.Terminal
import CompilePolicy.Tree.Loading

/-!
# The console

What a command works with: the files, the loggers, and the lines it prints. A
command runs to its end or stops with a cause. What it did until then stays.
-/

namespace CompilePolicy.CommandLine

open CompilePolicy.Calendar CompilePolicy.FileSystem CompilePolicy.Journal

/-- What a command finds when it is started. -/
structure Setting where
  now : Moment
  /-- The time as the lines of log files show it. -/
  lineTime : String
  /-- How much time passes whenever the clock is read, in seconds. -/
  tick : Float := 0
  vars : Variables := []

/-- The state of a command. -/
structure Console where
  files : Files
  logging : Logging := {}
  /-- The records that were kept, the last one last. -/
  records : List Record := []
  /-- What was printed. -/
  output : String := ""

/-- Why a command stops. -/
inductive Stop where
  | usage (fault : UsageFault)
  /-- The descriptor gives no units. -/
  | descriptor (fault : Descriptor.LoadFault)
  /-- There is no configuration. -/
  | source (fault : Conventions.SourceFault)
  /-- The log file cannot be opened. -/
  | log (fault : FileSystem.Fault)
  /-- A report cannot be written. -/
  | report (fault : Report.Fault)
  /-- A line cannot be printed. -/
  | unencodable (fault : Text.EncodingFault)
  /-- Violations were found. -/
  | violations
deriving DecidableEq, Repr

/-- A part of a command. -/
abbrev InConsole (α : Type) := ReaderT Setting (ExceptT Stop (StateM Console)) α

namespace Console

/-- Prints a line. -/
def printLine (line : String) : InConsole Unit := do
  let printed := Text.plainText line ++ "\n"
  match Text.encode printed with
  | .ok _ => modify fun console => { console with output := console.output ++ printed }
  | .error fault => throw (.unencodable fault)

/-- Makes a record: it is kept and written to the log files if the level of its
logger admits it. -/
def log (record : Record) : InConsole Unit := do
  let setting ← read
  modify fun console =>
    { console with
      files := console.logging.log console.files setting.lineTime record
      records := console.records ++ [record].filter console.logging.keeps }

/-- Makes records in order. -/
def logAll (records : List Record) : InConsole Unit :=
  records.forM log

/-- Takes a result, or stops with the cause. -/
def orStop {α ε : Type} (cause : ε → Stop) : Except ε α → InConsole α
  | .ok value => return value
  | .error fault => throw (cause fault)

/-- The records that are shown: those that were kept and that the level of the console
admits, which is the one of the root logger. -/
def shown (console : Console) : List Record :=
  console.records.filter fun record =>
    decide ((console.logging.levelOf rootLogger).rank ≤ record.level.rank)

/-- Runs a part of a command: its result, and the console after it. -/
def run {α : Type} (console : Console) (setting : Setting) (part : InConsole α) :
    Except Stop α × Console :=
  (ExceptT.run (part.run setting)).run console

end Console

end CompilePolicy.CommandLine

import CompilePolicy.FileSystem.Basic
import CompilePolicy.Journal.LogPath
import CompilePolicy.Journal.Record
import CompilePolicy.Text.Encoding
import CompilePolicy.Text.Split

/-!
# Logging

Records are made through loggers. A logger has a level of its own or the one of
the nearest logger above it, and a record below that level is dropped. A record
that is kept is written to the log files of its logger and of all loggers above
it.

The root logger stands above all others. Its level is the one of loggers for
which none is set.

A logger has at most one log file. Opening another one closes the first, and a
file that is removed keeps no further records.
-/

namespace CompilePolicy.Journal

open CompilePolicy.Calendar CompilePolicy.FileSystem

/-- An open log file. -/
structure LogFile where
  /-- The logger whose records it takes, with those of all loggers below. -/
  logger : String
  place : Place
  /-- Whether the file is still there. -/
  isLinked : Bool := true
deriving DecidableEq, Repr

/-- The name of the root logger, which may also be left out. -/
def rootLogger : String := "root"

/-- The levels that are set, and the log files that are open. -/
structure Logging where
  levels : List (String × Level) := [(rootLogger, .warning)]
  files : List LogFile := []
deriving DecidableEq, Repr

/-- How a log file is opened. -/
structure LogOptions where
  logger : String := packageLogger
  level : Level := .info
  /-- The time of opening is put into the name. Otherwise an old file is
  replaced. -/
  isTimed : Bool := true
deriving DecidableEq, Repr

/-- The logger that a name stands for. -/
def loggerNamed (name : String) : String :=
  if name = "" then rootLogger else name

/-- The names above a dotted name, the nearest first. -/
def namesAbove : Nat → String → List String
  | 0, _ => []
  | bound + 1, name =>
    match Text.cutAtLast? '.' name.toList with
    | some (above, _) => String.ofList above :: namesAbove bound (String.ofList above)
    | none => []

/-- A logger and the loggers above it, the nearest first. -/
def lineage (logger : String) : List String :=
  (logger :: namesAbove logger.length logger).filter (· ≠ rootLogger) ++ [rootLogger]

example : lineage "a.b" = ["a.b", "a", rootLogger] := by decide

namespace Logging

/-- The level of a logger: the nearest one that is set and not zero. -/
def levelOf (logging : Logging) (logger : String) : Level :=
  ((lineage logger).findSome? fun name =>
    (logging.levels.lookup name).filter (·.rank ≠ 0)).getD ⟨0⟩

/-- Whether a record is kept. -/
def keeps (logging : Logging) (record : Record) : Bool :=
  decide (0 < record.level.rank) &&
    decide ((logging.levelOf record.logger).rank ≤ record.level.rank)

/-- Sets the level of a logger. -/
def setLevel (logging : Logging) (logger : String) (level : Level) : Logging :=
  { logging with
    levels := (logger, level) :: logging.levels.filter (·.1 != logger) }

/-- The log files that take a record, from its own logger upwards. -/
def takers (logging : Logging) (record : Record) : List LogFile :=
  (lineage record.logger).flatMap fun name => logging.files.filter (·.logger == name)

/-- A record as a line. -/
def line (time : String) (record : Record) : String :=
  time ++ " | " ++ record.level.name ++ " | " ++ record.logger ++ " | " ++ record.message ++ "\n"

/-- Writes a record to the log files that take it, if it is kept and can be written. -/
def log (logging : Logging) (files : Files) (time : String) (record : Record) : Files :=
  match Text.encode (line time record) with
  | .ok bytes =>
    if logging.keeps record then
      ((logging.takers record).filter (·.isLinked)).foldl
        (fun written file => written.appendAt file.place bytes) files
    else files
  | .error _ => files

/-- The log files after what stands at a place is removed. -/
def unlink (logging : Logging) (place : Place) : Logging :=
  { logging with
    files := logging.files.map fun file =>
      if file.place = place then { file with isLinked := false } else file }

/-- Removes an old log file, if there is one. -/
def replaceOld (logging : Logging) (files : Files) (path : Path) :
    Except FileSystem.Fault (Logging × Files) :=
  match files.unlink path with
  | .error fault => .error fault
  | .ok removed =>
    match files.locate path with
    | .ok place => .ok (logging.unlink place, removed)
    | .error _ => .ok (logging, removed)

/-- The path at which a log file is opened. -/
def openedPath (options : LogOptions) (now : Moment) (path : Path) : Path :=
  if options.isTimed then timedPath now path else path

/-- What opening a log file gives: its path, and everything after it. -/
structure Opened where
  path : Path
  logging : Logging
  files : Files
deriving DecidableEq

/-- Attaches a log file to a logger in the place of its old one. -/
def attach (logging : Logging) (logger : String) (place : Place) : Logging :=
  { logging with files := logging.files.filter (·.logger != logger) ++ [{ logger, place }] }

/-- Opens a log file. -/
def openFile (logging : Logging) (files : Files) (options : LogOptions) (now : Moment)
    (path : Path) : Except FileSystem.Fault Opened := do
  let actual := openedPath options now path
  let logger := loggerNamed options.logger
  let (cleared, removed) ←
    if options.isTimed then .ok (logging, files) else logging.replaceOld files actual
  let prepared ← removed.makeDirectories actual.parent
  let place ← prepared.writable actual
  .ok {
    path := actual
    logging := (cleared.setLevel logger options.level).attach logger place
    files := prepared.appendAt place .empty }

end Logging

end CompilePolicy.Journal

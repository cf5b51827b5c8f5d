import CompilePolicy.Calendar
import CompilePolicy.FileSystem.Path

/-!
# Paths of log files

A log file can carry the time at which it was opened in its name, so that the
logs of earlier runs are kept.
-/

namespace CompilePolicy.Journal

open CompilePolicy.Calendar CompilePolicy.FileSystem

/-- The ending of a log file that is given none. -/
def defaultSuffix : String := ".log"

/-- The path with a time in its name. -/
def timedPath (now : Moment) (path : Path) : Path :=
  let suffix := if path.suffix = "" then defaultSuffix else path.suffix
  path.parent.child (path.stem ++ "_" ++ now.stamp ++ suffix)

end CompilePolicy.Journal

import CompilePolicy.Decimal.Digits

/-!
# Journal records

What a run reports on the way is a list of records. A record has a level and
comes from a logger, whose dotted name places it below the package's logger.
-/

namespace CompilePolicy.Journal

/-- How important a record is; the higher, the more. -/
structure Level where
  rank : Int
deriving DecidableEq, Repr

namespace Level

def debug : Level := ⟨10⟩
def info : Level := ⟨20⟩
def warning : Level := ⟨30⟩
def error : Level := ⟨40⟩
def critical : Level := ⟨50⟩

/-- The name of a level. Levels between the named ones go by their rank. -/
def name (level : Level) : String :=
  match level.rank with
  | 50 => "CRITICAL"
  | 40 => "ERROR"
  | 30 => "WARNING"
  | 20 => "INFO"
  | 10 => "DEBUG"
  | 0 => "NOTSET"
  | rank => "Level " ++ Decimal.intText rank

end Level

/-- One report. -/
structure Record where
  logger : String
  level : Level
  message : String
deriving DecidableEq, Repr

/-- The logger that all others of the package stand below. -/
def packageLogger : String := "enterprise_groovy"

/-- A logger below the package's. -/
def childLogger (name : String) : String :=
  packageLogger ++ "." ++ name

end CompilePolicy.Journal

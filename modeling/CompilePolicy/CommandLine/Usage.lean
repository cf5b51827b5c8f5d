import CompilePolicy.FileSystem.Basic
import CompilePolicy.Policy.Property
import CompilePolicy.Text.Quoted

/-!
# Faults of usage

A command line that cannot be followed is answered by one message that names what
is wrong with it. Nothing is done then.
-/

namespace CompilePolicy.CommandLine

open CompilePolicy.Text

/-- What a path on the command line stands for. -/
inductive PathKind where
  | file
  | directory
deriving DecidableEq, Repr

/-- The name of a kind of path. -/
def PathKind.name : PathKind → String
  | .file => "File"
  | .directory => "Directory"

/-- What a path leads to if it is of the wrong kind. -/
def PathKind.opposite : PathKind → String
  | .file => "directory"
  | .directory => "file"

/-- Why a value is refused. -/
inductive Refusal where
  /-- A path leads nowhere. -/
  | nowhere (kind : PathKind) (path : String)
  /-- A path leads to something else. -/
  | otherKind (kind : PathKind) (path : String)
  | unknownRules (ids : List String)
  | noProperty (bad : Properties.BadItem)
deriving DecidableEq, Repr

/-- The message of a refusal. -/
def Refusal.message : Refusal → String
  | .nowhere kind path => kind.name ++ " " ++ quoted path ++ " does not exist."
  | .otherKind kind path => kind.name ++ " " ++ quoted path ++ " is a " ++ kind.opposite ++ "."
  | .unknownRules ids => "unknown rule(s): " ++ ", ".intercalate ids
  | .noProperty bad => bad.message

/-- What is wrong with a command line. -/
inductive UsageFault where
  /-- Nothing is asked for. -/
  | noArguments
  | noSuchOption (name : String) (close : List String)
  | noValue (name : String)
  | unwantedValue (name : String)
  | missingArgument (name : String)
  | badValue (parameter : String) (refusal : Refusal)
  /-- A path is none, since it contains the character zero. -/
  | impossiblePath (path : String)
  | extraArgument (argument : String)
  | extraArguments (arguments : List String)
  | missingCommand
  | noSuchCommand (name : String) (close : List String)
deriving DecidableEq, Repr

/-- A message with the names that could have been meant. -/
def withOffer (message : String) : List String → String
  | [] => message
  | [name] => message ++ " Did you mean " ++ quoted name ++ "?"
  | names => message ++ " (Did you mean one of: " ++ ", ".intercalate (names.map quoted) ++ "?)"

/-- Whether a fault is one that the program has no answer for. -/
def UsageFault.isUnanswered : UsageFault → Bool
  | .impossiblePath _ => true
  | _ => false

/-- The message of a fault. Where nothing is asked for there is none. -/
def UsageFault.message? : UsageFault → Option String
  | .noArguments => none
  | .noSuchOption name close =>
    some (withOffer ("No such option " ++ quoted name ++ ".") close)
  | .noValue name => some ("Option " ++ quoted name ++ " requires an argument.")
  | .unwantedValue name => some ("Option " ++ quoted name ++ " does not take a value.")
  | .missingArgument name => some ("Missing argument '" ++ name ++ "'.")
  | .badValue parameter refusal =>
    some ("Invalid value for " ++ parameter ++ ": " ++ refusal.message)
  | .impossiblePath path => some (FileSystem.Fault.message ⟨.zeroCharacter, path⟩)
  | .extraArgument argument => some ("Got unexpected extra argument (" ++ argument ++ ")")
  | .extraArguments arguments =>
    some ("Got unexpected extra arguments (" ++ " ".intercalate arguments ++ ")")
  | .missingCommand => some "Missing command."
  | .noSuchCommand name close =>
    some (withOffer ("No such command " ++ quoted name ++ ".") close)

end CompilePolicy.CommandLine

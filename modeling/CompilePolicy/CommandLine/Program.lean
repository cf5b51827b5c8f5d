import CompilePolicy.CommandLine.Command

/-!
# The program

A command line is read, followed, and answered by an exit code, what was printed,
and at most one line that says why it was not followed. A stop that no such line
is for is left to the caller.
-/

namespace CompilePolicy.CommandLine

open CompilePolicy.FileSystem CompilePolicy.Journal

/-- The name of the program. -/
def programName : String := "enterprise-groovy"

/-- The version of the program. -/
def programVersion : String := "0.1.0"

/-- The line that says how the program or a command of it is used. The help text that
stands below it, with all options, is left out. -/
def usageLine : Option Command → String
  | none => "Usage: " ++ programName ++ " [OPTIONS] COMMAND [ARGS]..."
  | some .check => "Usage: " ++ programName ++ " check [OPTIONS] TREE"
  | some .showConfig => "Usage: " ++ programName ++ " show-config [OPTIONS]"

/-- Does what is asked for. -/
def perform : Request → InConsole Unit
  | .version => Console.printLine (programName ++ ", version " ++ programVersion)
  | .help command => Console.printLine (usageLine command)
  | .check request => check request
  | .showConfig properties => showConfiguration properties

/-- What is left when a command line has been followed as far as it goes. -/
structure Finished where
  console : Console
  stop : Option Stop := none

/-- Follows a command line. -/
def follow (setting : Setting) (files : Files) (words : List String) : Finished :=
  match readInvocation files words with
  | .error fault => { console := { files }, stop := some (.usage fault) }
  | .ok invocation =>
    let logging := ({} : Logging).setLevel rootLogger invocation.level
    let begun : Console := { files, logging }
    let (result, console) := begun.run setting (perform invocation.request)
    match result with
    | .ok _ => { console }
    | .error stop => { console, stop := some stop }

/-- Whether a stop is one that the program has no answer for. -/
def Stop.isUnanswered : Stop → Bool
  | .usage fault => fault.isUnanswered
  | .descriptor fault => !fault.isFormat
  | .source _ => true
  | .log _ => true
  | .report _ => true
  | .unencodable _ => true
  | .violations => false

/-- The exit code of a stop: two if the command line is wrong, and one otherwise. -/
def Stop.exitCode : Stop → Nat
  | .usage fault => if fault.isUnanswered then 1 else 2
  | _ => 1

/-- The words for the cause of a stop, if it has some. Those of a codec are left out. -/
def Stop.cause? : Stop → Option String
  | .usage fault => fault.message?
  | .descriptor fault => fault.message?
  | .source fault => fault.message?
  | .log fault => some fault.message
  | .report fault => fault.message?
  | .unencodable _ => none
  | .violations => none

/-- The message that answers a stop. -/
def Stop.message? (stop : Stop) : Option String :=
  if stop.isUnanswered then none else stop.cause?

/-- A text with the halves of characters in it as escapes. -/
def escapeHalves (text : String) : String :=
  String.ofList ((Text.codes text.toList).flatMap fun code =>
    if Text.isHalf code then Text.escapedCode code else Text.holdCode code)

namespace Finished

/-- The exit code: zero if there was no stop. -/
def exitCode (finished : Finished) : Nat :=
  (finished.stop.map Stop.exitCode).getD 0

/-- The line that says why the command line was not followed. Halves of characters in
it are escaped. -/
def errorLine? (finished : Finished) : Option String :=
  (finished.stop.bind Stop.message?).map fun message =>
    escapeHalves (Text.plainText ("Error: " ++ message))

/-- The stop that the program has no answer for. -/
def unanswered? (finished : Finished) : Option Stop :=
  finished.stop.filter Stop.isUnanswered

end Finished

end CompilePolicy.CommandLine

import CompilePolicy.CommandLine.Words
import CompilePolicy.FileSystem.Basic
import CompilePolicy.Journal.Record

/-!
# Requests

What a command line asks for. The options of the program come first and its
command after them, with options and arguments of its own. Asking for the version
or for help comes before everything else that the same part of the command line
says, once all of that part's words can be read.

Paths are checked when they are read, in the order in which their options are
first used, and the descriptor after them.
-/

namespace CompilePolicy.CommandLine

open CompilePolicy.FileSystem CompilePolicy.Journal

/-- The commands. -/
inductive Command where
  /-- Checks the units of a descriptor. -/
  | check
  /-- Shows the configuration. -/
  | showConfig
deriving DecidableEq, Repr

/-- All commands. -/
def Command.all : List Command :=
  [.check, .showConfig]

/-- The name of a command. -/
def Command.name : Command → String
  | .check => "check"
  | .showConfig => "show-config"

/-- The command with a name. -/
def Command.ofName? (name : String) : Option Command :=
  Command.all.find? (·.name == name)

/-- The options of the program. -/
inductive ProgramOption where
  | version
  | verbose
  | debug
  | help
deriving DecidableEq, Repr

/-- The names of the options of the program. -/
def programSwitches : List (Switch ProgramOption) :=
  [{ key := .version, names := ["--version"] },
   { key := .verbose, names := ["-v", "--verbose"] },
   { key := .debug, names := ["--debug"] },
   { key := .help, names := ["--help"] }]

/-- The options of commands. -/
inductive CommandOption where
  | conventions
  | property
  | console
  | skipRule
  | out
  | logFile
  | help
deriving DecidableEq, Repr

/-- The names of the options of a command. -/
def CommandOption.switch : CommandOption → Switch CommandOption
  | .conventions => ⟨.conventions, ["--conventions", "-c"], true⟩
  | .property => ⟨.property, ["--property", "-D"], true⟩
  | .console => ⟨.console, ["--console"], false⟩
  | .skipRule => ⟨.skipRule, ["--skip-rule"], true⟩
  | .out => ⟨.out, ["--out", "-o"], true⟩
  | .logFile => ⟨.logFile, ["--log-file"], true⟩
  | .help => ⟨.help, ["--help"], false⟩

/-- The options that a command has. -/
def Command.options : Command → List CommandOption
  | .check => [.conventions, .property, .console, .skipRule, .out, .logFile, .help]
  | .showConfig => [.conventions, .property, .console, .help]

/-- The options of a command with their names. -/
def Command.switches (command : Command) : List (Switch CommandOption) :=
  command.options.map (·.switch)

/-- What a check is asked to do. -/
structure CheckRequest where
  /-- The descriptor. -/
  tree : String
  properties : Properties.Options := {}
  /-- The rules that are left out. -/
  skipped : List String := []
  /-- The directory that reports go to. -/
  out : Option String := none
  logFile : Option String := none
deriving DecidableEq, Repr

/-- What a command line asks for. -/
inductive Request where
  | version
  | help (command : Option Command)
  | check (request : CheckRequest)
  | showConfig (properties : Properties.Options)
deriving DecidableEq, Repr

/-- A request with the level of the records that are kept. -/
structure Invocation where
  level : Level := .warning
  request : Request
deriving DecidableEq, Repr

/-- Names as a message shows them. -/
def shownNames (names : List String) : String :=
  " / ".intercalate (names.map fun name => "'" ++ name ++ "'")

/-- The name of the argument that stands for the descriptor. -/
def treeArgument : String := "TREE"

/-- Why a path is refused. Only a path that has to be there may not lead nowhere. -/
def pathRefusal? (files : Files) (kind : PathKind) (isNeeded : Bool) (path : String) :
    Option Refusal :=
  match files.found? path, kind with
  | none, _ => if isNeeded then some (.nowhere kind path) else none
  | some (.file _), .directory => some (.otherKind kind path)
  | some .directory, .file => some (.otherKind kind path)
  | some _, _ => none

/-- What is wrong with a path that is given for a parameter. -/
def pathFault? (files : Files) (parameter : String) (kind : PathKind) (isNeeded : Bool)
    (path : String) : Option UsageFault :=
  if Files.isPossible path then
    (pathRefusal? files kind isNeeded path).map (.badValue parameter)
  else some (.impossiblePath path)

/-- What is wrong with the path that an option gives. -/
def optionFault? (files : Files) (words : Words CommandOption) (option : CommandOption) :
    Option UsageFault :=
  let refused (kind : PathKind) : Option UsageFault :=
    (words.value? option).bind (pathFault? files (shownNames option.switch.names) kind false)
  match option with
  | .out => refused .directory
  | .logFile => refused .file
  | _ => none

/-- Refuses arguments that are left over. -/
def refuseExtra : List String → Except UsageFault Unit
  | [] => .ok ()
  | [argument] => .error (.extraArgument argument)
  | arguments => .error (.extraArguments arguments)

/-- What the words say about properties. -/
def propertyOptions (words : Words CommandOption) : Properties.Options where
  items := words.values .property
  conventions := words.value? .conventions
  console := words.has .console

/-- Reads the descriptor's path among the arguments. -/
def readTree (files : Files) (arguments : List String) : Except UsageFault String :=
  match arguments with
  | [] => .error (.missingArgument treeArgument)
  | tree :: extra =>
    match pathFault? files (shownNames [treeArgument]) .file true tree with
    | some fault => .error fault
    | none => (refuseExtra extra).map fun _ => tree

/-- What the words after a command ask for. -/
def requestOf (files : Files) (words : Words CommandOption) :
    Command → Except UsageFault Request
  | .check =>
    match words.used.findSome? (optionFault? files words) with
    | some fault => .error fault
    | none =>
      (readTree files words.arguments).map fun tree =>
        .check {
          tree
          properties := propertyOptions words
          skipped := words.values .skipRule
          out := words.value? .out
          logFile := words.value? .logFile }
  | .showConfig =>
    (refuseExtra words.arguments).map fun _ => .showConfig (propertyOptions words)

/-- Reads the words after a command. -/
def readRequest (files : Files) (command : Command) (words : List String) :
    Except UsageFault Request :=
  match readWords command.switches true words with
  | .error fault => .error fault
  | .ok read => if read.has .help then .ok (.help command) else requestOf files read command

/-- What comes before everything else, if it is asked for: the one that is asked for
first. -/
def early? (words : Words ProgramOption) : Option Request :=
  words.used.findSome? fun
    | .version => some .version
    | .help => some (.help none)
    | _ => none

/-- The level that the options of the program set. -/
def levelOf (words : Words ProgramOption) : Level :=
  if words.has .debug then .debug else if words.has .verbose then .info else .warning

/-- Answers a name that is no command. It is read once more as the options of the
program, since it may be one of them behind the mark that ends the options. -/
def readUnknown (name : String) (rest : List String) : Except UsageFault Invocation :=
  match readWords programSwitches false (name :: rest) with
  | .error fault => .error fault
  | .ok words =>
    match early? words with
    | some request => .ok { request }
    | none =>
      .error (.noSuchCommand name (Text.closeTexts name (Command.all.map (·.name))))

/-- Reads a command line. -/
def readInvocation (files : Files) (words : List String) : Except UsageFault Invocation :=
  if words.isEmpty then .error .noArguments
  else
    match readWords programSwitches false words with
    | .error fault => .error fault
    | .ok read =>
      match early? read, read.arguments with
      | some request, _ => .ok { request }
      | none, [] => .error .missingCommand
      | none, name :: rest =>
        match Command.ofName? name with
        | some command =>
          (readRequest files command rest).map fun request => { level := levelOf read, request }
        | none => readUnknown name rest

end CompilePolicy.CommandLine

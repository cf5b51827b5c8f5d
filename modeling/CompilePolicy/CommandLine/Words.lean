import CompilePolicy.CommandLine.Usage
import CompilePolicy.Text.Similarity
import CompilePolicy.Text.Split

/-!
# Words of a command line

A command line is a list of words: options, their values, and arguments. A long
option stands after two dashes and may carry its value after an equals sign. Short
options, a character each, can share a word, and what follows one that takes a
value is its value. A value that does not stand in the same word is the next word,
whatever it looks like. Two dashes alone end the options.
-/

namespace CompilePolicy.CommandLine

open CompilePolicy.Text

/-- An option that a command has. -/
structure Switch (κ : Type) where
  key : κ
  /-- The names, with their dashes. -/
  names : List String
  takesValue : Bool := false

/-- What the words of a command line say: options with their values in order, and
arguments. -/
structure Words (κ : Type) where
  options : List (κ × Option String) := []
  arguments : List String := []

namespace Words

variable {κ : Type}

/-- Words after some options. -/
def after (options : List (κ × Option String)) (words : Words κ) : Words κ :=
  { words with options := options ++ words.options }

/-- Words after an argument. -/
def afterArgument (argument : String) (words : Words κ) : Words κ :=
  { words with arguments := argument :: words.arguments }

/-- The options that are used, each once, in the order of their first use. -/
def used [BEq κ] (words : Words κ) : List κ :=
  (words.options.map (·.1)).eraseDups

/-- Whether an option is used. -/
def has [BEq κ] (words : Words κ) (key : κ) : Bool :=
  words.options.any (·.1 == key)

/-- All values of an option. -/
def values [BEq κ] (words : Words κ) (key : κ) : List String :=
  words.options.filterMap fun (used, value) => if used == key then value else none

/-- The value of an option that has one: the last one that is given. -/
def value? [BEq κ] (words : Words κ) (key : κ) : Option String :=
  (words.values key).getLast?

end Words

/-- What the word of an option says: options that are complete, and at the end maybe
one, under the name it is used by, whose value is the next word. -/
structure OptionWord (κ : Type) where
  complete : List (κ × Option String) := []
  pending : Option (κ × String) := none

variable {κ : Type}

/-- The option with a name. -/
def switchNamed? (switches : List (Switch κ)) (name : String) : Option (Switch κ) :=
  switches.find? (·.names.contains name)

/-- Whether a name is a long one. -/
def isLong (name : String) : Bool :=
  "--".toList.isPrefixOf name.toList

/-- The long names of options. -/
def longNames (switches : List (Switch κ)) : List String :=
  (switches.flatMap (·.names)).filter isLong

/-- Reads short options that share a word. -/
def readShort (switches : List (Switch κ)) : List Char → Except UsageFault (OptionWord κ)
  | [] => .ok {}
  | char :: rest =>
    let name := String.ofList ['-', char]
    match switchNamed? switches name with
    | none => .error (.noSuchOption name [])
    | some switch =>
      if switch.takesValue then
        if rest.isEmpty then .ok { pending := some (switch.key, name) }
        else .ok { complete := [(switch.key, some (String.ofList rest))] }
      else
        (readShort switches rest).map fun said =>
          { said with complete := (switch.key, none) :: said.complete }

/-- Reads a long option, whose value may stand in its word. -/
def readLong (switch : Switch κ) (name : String) (value : Option String) :
    Except UsageFault (OptionWord κ) :=
  match switch.takesValue, value with
  | true, some text => .ok { complete := [(switch.key, some text)] }
  | true, none => .ok { pending := some (switch.key, name) }
  | false, some _ => .error (.unwantedValue name)
  | false, none => .ok { complete := [(switch.key, none)] }

/-- The name in the word of an option, and the value after an equals sign. -/
def splitOption (word : String) : String × Option String :=
  match cutAtFirst? '=' word.toList with
  | some (name, value) => (String.ofList name, some (String.ofList value))
  | none => (word, none)

/-- Reads the word of an option. -/
def readOption (switches : List (Switch κ)) (word : String) :
    Except UsageFault (OptionWord κ) :=
  let (name, value) := splitOption word
  match (switchNamed? switches name).filter fun _ => isLong name with
  | some switch => readLong switch name value
  | none =>
    if isLong word then .error (.noSuchOption name (closeTexts name (longNames switches)))
    else readShort switches (word.toList.drop 1)

/-- Whether a word is an option: a dash with something after it. -/
def isOption (word : String) : Bool :=
  match word.toList with
  | '-' :: _ :: _ => true
  | _ => false

/-- Reads words. Options may stand between arguments if `mixed` says so, and end at
the first argument otherwise. -/
def readWords (switches : List (Switch κ)) (mixed : Bool) :
    List String → Except UsageFault (Words κ)
  | [] => .ok {}
  | word :: rest =>
    if word = "--" then .ok { arguments := rest }
    else if isOption word then
      match readOption switches word with
      | .error fault => .error fault
      | .ok said =>
        match said.pending, rest with
        | none, rest => (readWords switches mixed rest).map (·.after said.complete)
        | some (_, name), [] => .error (.noValue name)
        | some (key, _), value :: later =>
          (readWords switches mixed later).map
            (·.after (said.complete ++ [(key, some value)]))
    else if mixed then (readWords switches mixed rest).map (·.afterArgument word)
    else .ok { arguments := word :: rest }

/-- Two dashes end the options: all words after them are arguments. -/
theorem readWords_dashes (switches : List (Switch κ)) (mixed : Bool) (rest : List String) :
    readWords switches mixed ("--" :: rest) = .ok { arguments := rest } := by
  simp [readWords]

end CompilePolicy.CommandLine

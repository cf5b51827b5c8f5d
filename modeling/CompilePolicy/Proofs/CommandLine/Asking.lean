import CompilePolicy.CommandLine.Request

/-!
# Asking for a check

How a command line is read in which each option of a check stands in a word of its own and
has its value in the next one. The values can look like anything, also like options.
-/

namespace CompilePolicy.CommandLine

open CompilePolicy.FileSystem CompilePolicy.Journal

/-! ## Options with values -/

/-- An option as it is written in a word of its own. -/
def CommandOption.word : CommandOption → String
  | .conventions => "-c"
  | .property => "-D"
  | .console => "--console"
  | .skipRule => "--skip-rule"
  | .out => "--out"
  | .logFile => "--log-file"
  | .help => "--help"

/-- The words of options with their values. -/
def optionWords (given : List (CommandOption × String)) : List String :=
  given.flatMap fun (option, value) => [option.word, value]

theorem readOption_word {option : CommandOption} (takes : option.switch.takesValue = true) :
    readOption Command.check.switches option.word =
      .ok { pending := some (option, option.word) } := by
  cases option with
  | conventions | property | skipRule | out | logFile => rfl
  | console | help => cases takes

theorem isOption_word (option : CommandOption) :
    isOption option.word = true ∧ option.word ≠ "--" := by
  cases option <;> decide

/-- Options are read with the values that are given to them. -/
theorem readWords_optionWords {given : List (CommandOption × String)}
    (take : ∀ one ∈ given, one.1.switch.takesValue = true) :
    readWords Command.check.switches true (optionWords given) =
      .ok { options := given.map fun (option, value) => (option, some value) } := by
  induction given with
  | nil => rfl
  | cons one rest ih =>
      obtain ⟨option, value⟩ := one
      rw [List.forall_mem_cons] at take
      obtain ⟨isOption, undashed⟩ := isOption_word option
      change readWords _ true (option.word :: value :: optionWords rest) = _
      rw [readWords, if_neg undashed, if_pos isOption, readOption_word take.1]
      dsimp only
      rw [ih take.2]
      rfl

/-! ## Command lines -/

/-- The words that ask for a level. -/
def levelWords : Level → List String
  | .debug => ["--debug"]
  | .info => ["-v"]
  | _ => []

/-- The options of the program are read, and the rest is left to the command. -/
theorem readInvocation_command (files : Files) {level : Level}
    (listed : level ∈ [Level.debug, .info, .warning]) (command : Command) (words : List String) :
    readInvocation files (levelWords level ++ command.name :: words) =
      (readRequest files command words).map fun request => ⟨level, request⟩ := by
  simp only [List.mem_cons, List.not_mem_nil, or_false] at listed
  rcases listed with rfl | rfl | rfl <;> cases command <;> rfl

/-- What the words of a check say: its descriptor, and options with values. -/
def checkSaid (tree : String) (given : List (CommandOption × String)) : Words CommandOption where
  options := given.map fun (option, value) => (option, some value)
  arguments := [tree]

/-- The request that a descriptor and options with values stand for. -/
def checkAsked (tree : String) (given : List (CommandOption × String)) : CheckRequest :=
  let words := checkSaid tree given
  { tree
    properties := propertyOptions words
    skipped := words.values .skipRule
    out := words.value? .out
    logFile := words.value? .logFile }

/-- A check is asked for by its descriptor and by options with values, if the descriptor is no
option and is there, and no path that is given is refused. -/
theorem readInvocation_check {files : Files} {level : Level}
    (listed : level ∈ [Level.debug, .info, .warning]) {tree : String}
    (isArgument : tree ≠ "--" ∧ isOption tree = false)
    (isThere : pathFault? files (shownNames [treeArgument]) .file true tree = none)
    {given : List (CommandOption × String)}
    (take : ∀ one ∈ given, one.1.switch.takesValue = true)
    (accepted : ∀ one ∈ given, optionFault? files (checkSaid tree given) one.1 = none) :
    readInvocation files (levelWords level ++ "check" :: tree :: optionWords given) =
      .ok ⟨level, .check (checkAsked tree given)⟩ := by
  have said : readWords Command.check.switches true (tree :: optionWords given) =
      .ok (checkSaid tree given) := by
    rw [readWords, if_neg isArgument.1, if_neg (by simp [isArgument.2]), if_pos rfl,
      readWords_optionWords take]
    rfl
  have unfaulted : (checkSaid tree given).used.findSome?
      (optionFault? files (checkSaid tree given)) = none := by
    rw [List.findSome?_eq_none_iff]
    intro option used
    obtain ⟨⟨_, _⟩, isGiven, rfl⟩ := List.mem_map.mp (List.mem_eraseDups.mp used)
    obtain ⟨one, isOne, same⟩ := List.mem_map.mp isGiven
    cases same
    exact accepted one isOne
  have unhelped : (checkSaid tree given).has .help = false := by
    rw [Words.has, List.any_eq_false]
    intro one isGiven
    obtain ⟨⟨option, value⟩, isOne, rfl⟩ := List.mem_map.mp isGiven
    have other : option ≠ .help := by
      rintro rfl
      cases take _ isOne
    simpa using other
  have read : readTree files (checkSaid tree given).arguments = .ok tree := by
    simp [checkSaid, readTree, isThere, refuseExtra, Except.map]
  change readInvocation files (levelWords level ++ Command.check.name :: _) = _
  rw [readInvocation_command files listed, readRequest, said]
  dsimp only
  rw [unhelped, requestOf, unfaulted]
  dsimp only
  rw [read]
  rfl

/-! ## A descriptor alone -/

/-- The files with a descriptor and nothing else. -/
def oneFile (text : String) : Files :=
  Files.empty.withFile (.ofText "t.json") text.toUTF8

/-- A check is asked for of a descriptor that is there alone, whatever is in it. -/
theorem readInvocation_oneFile (text : String) {level : Level}
    (listed : level ∈ [Level.debug, .info, .warning]) {given : List (CommandOption × String)}
    (take : ∀ one ∈ given, one.1.switch.takesValue = true)
    (accepted : ∀ one ∈ given,
      optionFault? (oneFile text) (checkSaid "t.json" given) one.1 = none) :
    readInvocation (oneFile text) (levelWords level ++ "check" :: "t.json" :: optionWords given) =
      .ok ⟨level, .check (checkAsked "t.json" given)⟩ :=
  readInvocation_check listed (by decide) rfl take accepted

end CompilePolicy.CommandLine

import CompilePolicy.Document.Render
import CompilePolicy.Policy.Configuration

/-!
# Conventions

Conventions are a mapping from names to settings. Each known name sets one
field of the configuration; a missing name, or one set to null, leaves the
default. A value of the wrong type refuses the whole mapping, and names that
are not conventions are reported and have no effect.
-/

namespace CompilePolicy.Conventions

open CompilePolicy.Document

/-- The known conventions. -/
inductive Convention where
  | disable
  | whiteListScripts
  | disableDynamicCompile
  | dynamicCompileWhiteList
  | compileStaticExtensions
  | limitCompileStaticExtensions
  | defAllowed
  | skipDefaultPackage
deriving DecidableEq, Repr

/-- The name of a convention. -/
def Convention.name : Convention → String
  | .disable => "disable"
  | .whiteListScripts => "whiteListScripts"
  | .disableDynamicCompile => "disableDynamicCompile"
  | .dynamicCompileWhiteList => "dynamicCompileWhiteList"
  | .compileStaticExtensions => "compileStaticExtensions"
  | .limitCompileStaticExtensions => "limitCompileStaticExtensions"
  | .defAllowed => "defAllowed"
  | .skipDefaultPackage => "skipDefaultPackage"

/-- All conventions. -/
def Convention.all : List Convention :=
  [.disable, .whiteListScripts, .disableDynamicCompile, .dynamicCompileWhiteList,
   .compileStaticExtensions, .limitCompileStaticExtensions, .defAllowed, .skipDefaultPackage]

/-- The convention of a name. -/
def Convention.ofName? (name : String) : Option Convention :=
  Convention.all.find? (·.name == name)

/-- Why conventions are refused. -/
inductive Fault where
  | notMapping (typeName : String)
  | documentNotMapping (typeName : String)
  | blockNotMapping
  | notFlag (convention : Convention) (typeName : String)
  | notList (convention : Convention) (typeName : String)
  | notString (convention : Convention) (shown : String)
deriving DecidableEq, Repr

/-- The message of a fault. -/
def Fault.message : Fault → String
  | .notMapping typeName => "Conventions must be a mapping, got " ++ typeName
  | .documentNotMapping typeName => "Conventions document must be a mapping, got " ++ typeName
  | .blockNotMapping => "'conventions' block must be a mapping"
  | .notFlag convention typeName =>
    "Convention '" ++ convention.name ++ "' must be a boolean, got " ++ typeName
  | .notList convention typeName =>
    "Convention '" ++ convention.name ++ "' must be a list of strings, got " ++ typeName
  | .notString convention shown =>
    "Convention '" ++ convention.name ++ "' must only contain strings, got " ++ shown

/-- Why reading conventions stops: a fault in them, or a whole number in them
that has too many digits to be shown. -/
inductive Stop where
  | refused (fault : Fault)
  | tooManyDigits
deriving DecidableEq, Repr

/-- The flag that a convention is set to. -/
def flagOf (convention : Convention) (value : Value) : Except Stop Bool :=
  match value with
  | .bool flag => .ok flag
  | _ => .error (.refused (.notFlag convention value.typeName))

/-- The strings of a list, if it holds nothing else. -/
def stringsOf (convention : Convention) : List Value → Except Stop (List String)
  | [] => .ok []
  | .string text :: rest =>
    match stringsOf convention rest with
    | .ok texts => .ok (text :: texts)
    | .error stop => .error stop
  | value :: _ =>
    match value.shown? with
    | some shown => .error (.refused (.notString convention shown))
    | none => .error .tooManyDigits

/-- The list that a convention is set to. A single string is a list of one. -/
def listOf (convention : Convention) (value : Value) : Except Stop (List String) :=
  match value.untie with
  | .string text => .ok [text]
  | .list items => stringsOf convention items
  | .pair first second => stringsOf convention [first, second]
  | _ => .error (.refused (.notList convention value.typeName))

/-- Sets the field of a convention. -/
def apply (convention : Convention) (value : Value) (config : Configuration) :
    Except Stop Configuration :=
  match convention with
  | .disable => (flagOf convention value).map fun flag => { config with globalDisable := flag }
  | .whiteListScripts =>
    (flagOf convention value).map fun flag => { config with scriptsExempt := flag }
  | .disableDynamicCompile =>
    (flagOf convention value).map fun flag => { config with disableDynamicCompile := flag }
  | .dynamicCompileWhiteList =>
    (listOf convention value).map fun texts => { config with classWhitelist := texts }
  | .compileStaticExtensions =>
    (listOf convention value).map fun texts => { config with allowedExtensions := texts }
  | .limitCompileStaticExtensions =>
    (flagOf convention value).map fun flag => { config with limitExtensions := flag }
  | .defAllowed =>
    (flagOf convention value).map fun flag => { config with dynamicTypingAllowed := flag }
  | .skipDefaultPackage =>
    (flagOf convention value).map fun flag => { config with skipDefaultPackage := flag }

/-- What conventions say: the configuration, and which names are conventions
and which are not, in document order. -/
structure Parsed where
  configuration : Configuration
  recognized : List String := []
  ignored : List String := []
deriving DecidableEq, Repr

/-- The convention that a key names. -/
def conventionOf? (key : Value) : Option Convention :=
  key.string?.bind Convention.ofName?

/-- Takes up one entry. -/
def Parsed.take (parsed : Parsed) (key value : Value) : Except Stop Parsed :=
  match conventionOf? key with
  | none =>
    match key.text? with
    | some text => .ok { parsed with ignored := parsed.ignored ++ [text] }
    | none => .error .tooManyDigits
  | some convention =>
    let known := { parsed with recognized := parsed.recognized ++ [convention.name] }
    match value with
    | .null => .ok known
    | _ =>
      (apply convention value parsed.configuration).map fun config =>
        { known with configuration := config }

/-- Takes up entries in order. -/
def Parsed.takeAll (parsed : Parsed) : Entries → Except Stop Parsed
  | [] => .ok parsed
  | (key, value) :: rest =>
    match parsed.take key value with
    | .ok next => next.takeAll rest
    | .error stop => .error stop

/-- Reads conventions from the entries of a mapping. -/
def parseEntries (entries : Entries) : Except Stop Parsed :=
  Parsed.takeAll { configuration := { source := "conventions" } } entries

/-- Reads conventions from a value that has to be a mapping. -/
def parse (value : Value) : Except Stop Parsed :=
  match value.entries? with
  | some entries => parseEntries entries
  | none => .error (.refused (.notMapping value.typeName))

end CompilePolicy.Conventions

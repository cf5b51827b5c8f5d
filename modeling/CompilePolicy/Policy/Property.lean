import CompilePolicy.Document.Ordered
import CompilePolicy.Text.Blank
import CompilePolicy.Text.Quoted
import CompilePolicy.Text.Split
import CompilePolicy.Text.UpperCase

/-!
# Properties

Properties override what is configured elsewhere. They come from the
environment, from `key=value` items and from options of their own, and the later
of these sources win.
-/

namespace CompilePolicy

open Document

/-- Properties by name. -/
abbrev Properties := List (String × String)

/-- Environment variables by name. -/
abbrev Variables := List (String × String)

namespace Properties

/-- What the names of all known properties begin with. -/
def namePrefix : String := "enterprise.groovy."

def console : String := namePrefix ++ "console"
def disable : String := namePrefix ++ "disable"
def disableDynamicCompile : String := namePrefix ++ "disableDynamicCompile"
def defAllowed : String := namePrefix ++ "defAllowed"
def conventions : String := namePrefix ++ "conventions"

/-- The known properties. -/
def known : List String :=
  [console, disable, disableDynamicCompile, defAllowed, conventions]

/-- The environment variable of a property. -/
def variableName (property : String) : String :=
  Text.upper (Text.replaceChar '.' '_' property)

/-- The known properties that the environment sets. -/
def ofVariables (vars : Variables) : Properties :=
  known.filterMap fun property =>
    (vars.lookup (variableName property)).map fun value => (property, value)

/-- Where properties are read when they are needed. -/
inductive Origin where
  | given (properties : Properties)
  | environment (vars : Variables)
deriving DecidableEq, Repr

/-- The properties as they are now. -/
def Origin.read : Origin → Properties
  | .given properties => properties
  | .environment vars => ofVariables vars

/-- Sets a field, or takes it away where there is no value. -/
def change (fields : List (String × String)) (name : String) :
    Option String → List (String × String)
  | some value => setField fields name value
  | none => removeField fields name

/-- Changes a property where it is read. -/
def Origin.change (origin : Origin) (property : String) (value : Option String) : Origin :=
  match origin with
  | .given properties => .given (Properties.change properties property value)
  | .environment vars =>
    .environment (Properties.change vars (variableName property) value)

/-- An item that is not a key with a value. -/
structure BadItem where
  item : String
deriving DecidableEq, Repr

/-- The message for a bad item. -/
def BadItem.message (bad : BadItem) : String :=
  "expected key=value, got '" ++ bad.item ++ "'"

/-- The key and the value of an item, both trimmed. Something stands before the
first equals sign. -/
def ofItem (item : String) : Except BadItem (String × String) :=
  match Text.cutAtFirst? '=' item.toList with
  | some (key, value) =>
    if key.isEmpty then .error ⟨item⟩
    else .ok (Text.trim (String.ofList key), Text.trim (String.ofList value))
  | none => .error ⟨item⟩

/-- Sets the properties that items give, in order. -/
def setItems (properties : Properties) : List String → Except BadItem Properties
  | [] => .ok properties
  | item :: rest =>
    match ofItem item with
    | .error bad => .error bad
    | .ok (key, value) => setItems (setField properties key value) rest

/-- What options on the command line say about properties. -/
structure Options where
  items : List String := []
  conventions : Option String := none
  console : Bool := false
deriving DecidableEq, Repr

/-- A conventions option that is not empty sets the conventions property. -/
def setConventions (properties : Properties) (option : Option String) : Properties :=
  match option with
  | some source => if source = "" then properties else setField properties conventions source
  | none => properties

/-- The properties of the environment and of options: items come after the
environment, and the options of their own last. -/
def build (vars : Variables) (options : Options) : Except BadItem Properties :=
  (setItems (ofVariables vars) options.items).map fun properties =>
    let withConventions := setConventions properties options.conventions
    if options.console then setField withConventions console "true" else withConventions

example : variableName disableDynamicCompile = "ENTERPRISE_GROOVY_DISABLEDYNAMICCOMPILE" := by
  decide
example : (ofItem " a = b=c ").toOption = some ("a", "b=c") := by decide

end Properties

end CompilePolicy

import CompilePolicy.Tree.Descriptor

/-!
# The format of descriptors

What is wrong with a descriptor, and what it describes, each said without reading it.

The violations of a document are the messages for all that is wrong in it. They are
listed part by part in the order in which the parts are checked: what a part is, its
name, then what it consists of. Only the parameters of a method come before its name,
and the annotations of a class come after all else. What stands for nothing counts as
empty where a list or members are expected.

The units of a document are built from any document. Where it has violations they mean
nothing: a part that is missing or wrong is filled in by an empty one.
-/

namespace CompilePolicy.Descriptor.Format

open CompilePolicy.Document

/-! ## Parts of values -/

/-- The place under a key. -/
def keyPlace (place key : String) : String :=
  place ++ "." ++ key

/-- The place of an item of a list. -/
def itemPlace (place : String) (position : Nat) : String :=
  place ++ "[" ++ Decimal.natText position ++ "]"

/-- The place in a class, which shows its name. -/
def classPlace (place name : String) : String :=
  place ++ " " ++ name

/-- The entries of a mapping. -/
def entriesOf (value : Value) : Entries :=
  value.entries?.getD []

/-- The items where a list is expected, if there is one. -/
def itemsOf? (value : Value) : Option (List Value) :=
  if value.isTruthy then value.items? else some []

/-- The items where a list is expected. -/
def itemsOf (value : Value) : List Value :=
  (itemsOf? value).getD []

/-- The entries where members are expected, if there are any. -/
def membersOf? (value : Value) : Option Entries :=
  if value.isTruthy then value.entries? else some []

/-- The entries where members are expected. -/
def membersOf (value : Value) : Entries :=
  (membersOf? value).getD []

/-- The name in a mapping; it is empty if there is none. -/
def nameOf (entries : Entries) : String :=
  (entries.get "name").string?.getD ""

/-- A flag, which is not set unless it is true. -/
def flagOf : Value → Bool
  | .bool flag => flag
  | _ => false

/-- The text of a value. -/
def wordsOf (value : Value) : String :=
  value.text?.getD ""

/-! ## Violations -/

/-- The violations where a mapping is expected: its own, or that there is none. -/
def inMapping (place : String) (value : Value) (within : Entries → List String) : List String :=
  match value.entries? with
  | some entries => within entries
  | none => [place ++ ": expected a mapping, got " ++ value.typeName]

/-- The violations in the items of a list, item by item. -/
def inItems (place : String) (items : List Value) (each : String → Value → List String) :
    List String :=
  items.zipIdx.flatMap fun (item, position) => each (itemPlace place position) item

/-- The violations where a list is expected: those in its items, or that there is
none. -/
def inList (place : String) (value : Value) (each : String → Value → List String) :
    List String :=
  match itemsOf? value with
  | some items => inItems place items each
  | none => [place ++ ": expected a list"]

/-- A name has to be a text that is not empty. -/
def nameViolations (place : String) (entries : Entries) : List String :=
  if nameOf entries = "" then [place ++ ": missing 'name'"] else []

/-- A flag has to be true or false, unless it is missing or null. -/
def flagViolations (place : String) : Value → List String
  | .null => []
  | .bool _ => []
  | value => [place ++ ": expected true or false, got " ++ value.shown?.getD ""]

/-- Members have to be a mapping. -/
def membersViolations (place : String) (value : Value) : List String :=
  match membersOf? value with
  | some _ => []
  | none => [place ++ ": expected a mapping, got " ++ value.typeName]

/-- The violations in an annotation. A text is the name of one without members. -/
def annotationViolations (place : String) (value : Value) : List String :=
  match value with
  | .string _ => []
  | _ =>
    inMapping place value fun entries =>
      nameViolations place entries ++
        membersViolations (keyPlace place "members") (entries.get "members")

/-- The violations in the annotations of a part. -/
def annotationsViolations (place : String) (entries : Entries) : List String :=
  inList (keyPlace place "annotations") (entries.get "annotations") annotationViolations

/-- The violations in a field. -/
def fieldViolations (place : String) (value : Value) : List String :=
  inMapping place value fun entries =>
    nameViolations place entries ++
      (flagViolations (keyPlace place "dynamically_typed") (entries.get "dynamically_typed") ++
        annotationsViolations place entries)

/-- The violations in a parameter. -/
def parameterViolations (place : String) (value : Value) : List String :=
  inMapping place value fun entries =>
    nameViolations place entries ++
      flagViolations (keyPlace place "dynamically_typed") (entries.get "dynamically_typed")

/-- The violations in a method: those in its parameters come first. -/
def methodViolations (place : String) (value : Value) : List String :=
  inMapping place value fun entries =>
    inList (keyPlace place "parameters") (entries.get "parameters") parameterViolations ++
      (nameViolations place entries ++
        (flagViolations (keyPlace place "dynamic_return_type")
            (entries.get "dynamic_return_type") ++
          annotationsViolations place entries))

/-- The violations in a class: those in its own annotations come last. -/
def classViolations (place : String) (value : Value) : List String :=
  inMapping place value fun entries =>
    let inside := classPlace place (nameOf entries)
    nameViolations place entries ++
      (inList (keyPlace inside "fields") (entries.get "fields") fieldViolations ++
        (inList (keyPlace inside "methods") (entries.get "methods") methodViolations ++
          annotationsViolations inside entries))

/-- The violations in a unit. -/
def unitViolations (place : String) (value : Value) : List String :=
  inMapping place value fun entries =>
    inList (keyPlace place "classes") (entries.get "classes") classViolations

/-- The violations in a document: a list of units, a mapping with units under their
key, or else the mapping of one unit. -/
def violations (document : Value) : List String :=
  match document.items?, document.entries? with
  | some items, _ => inItems "units" items unitViolations
  | none, some entries =>
    match entries.get? "units" with
    | some units => inList "units" units unitViolations
    | none => inItems "units" [document] unitViolations
  | none, none => ["Tree descriptor must be a mapping or a list, got " ++ document.typeName]

/-! ## What is described -/

/-- What an annotation member is given. -/
def argumentOf (value : Value) : Argument :=
  match value.untie with
  | .null => .absent
  | .list items => .list (items.map wordsOf)
  | .pair first second => .list [wordsOf first, wordsOf second]
  | _ => .single (wordsOf value)

/-- What the last entry under a name gives. -/
def lastArgument (entries : Entries) (name : String) : Argument :=
  match entries.findRev? fun entry => wordsOf entry.1 == name with
  | some (_, value) => argumentOf value
  | none => .absent

/-- The arguments of an annotation. Each name stands where it is first written and has
what it is last given. -/
def argumentsOf (entries : Entries) : List (String × Argument) :=
  (entries.map fun entry => wordsOf entry.1).eraseDups.map fun name =>
    (name, lastArgument entries name)

/-- The annotation that a value describes. -/
def annotationOf (value : Value) : Annotation :=
  match value with
  | .string name => { name := fullName name }
  | _ =>
    let entries := entriesOf value
    { name := fullName (nameOf entries)
      members := argumentsOf (membersOf (entries.get "members")) }

/-- The annotations of a part. -/
def annotationsOf (entries : Entries) : List Annotation :=
  (itemsOf (entries.get "annotations")).map annotationOf

/-- The field that a value describes. -/
def fieldOf (value : Value) : Field :=
  let entries := entriesOf value
  { name := nameOf entries
    isDynamic := flagOf (entries.get "dynamically_typed")
    annotations := annotationsOf entries }

/-- The parameter that a value describes. -/
def parameterOf (value : Value) : Parameter :=
  let entries := entriesOf value
  { name := nameOf entries
    isDynamic := flagOf (entries.get "dynamically_typed") }

/-- The method that a value describes. -/
def methodOf (value : Value) : Method :=
  let entries := entriesOf value
  { name := nameOf entries
    returnsDynamic := flagOf (entries.get "dynamic_return_type")
    annotations := annotationsOf entries
    parameters := (itemsOf (entries.get "parameters")).map parameterOf }

/-- The declared package of a class. -/
def packageOf (entries : Entries) : Option String :=
  match entries.get "package" with
  | .null => none
  | value => some (wordsOf value)

/-- The class that a value describes. -/
def classOf (value : Value) : ClassDecl :=
  let entries := entriesOf value
  { name := nameOf entries
    annotations := annotationsOf entries
    fields := (itemsOf (entries.get "fields")).map fieldOf
    methods := (itemsOf (entries.get "methods")).map methodOf
    package := packageOf entries }

/-- The directory of a unit, if something is given for it. -/
def targetOf (entries : Entries) : Option String :=
  let given := entries.get "target_directory"
  if given.isTruthy then some (wordsOf given) else none

/-- The unit that a value describes. Its name can be any value. -/
def unitOf (value : Value) : CompilationUnit :=
  let entries := entriesOf value
  { name := ((entries.get? "name").map wordsOf).getD ""
    targetDirectory := targetOf entries
    classes := (itemsOf (entries.get "classes")).map classOf }

/-- The values that describe the units of a document. -/
def unitValues (document : Value) : List Value :=
  match document.items?, document.entries? with
  | some items, _ => items
  | none, some entries =>
    match entries.get? "units" with
    | some units => itemsOf units
    | none => [document]
  | none, none => []

/-- The units that a document describes. -/
def units (document : Value) : List CompilationUnit :=
  (unitValues document).map unitOf

end CompilePolicy.Descriptor.Format

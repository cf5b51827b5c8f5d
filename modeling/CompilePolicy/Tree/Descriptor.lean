import CompilePolicy.Document.Ordered
import CompilePolicy.Document.Render
import CompilePolicy.Tree.Annotations

/-!
# Tree descriptors

A descriptor is a document that describes compilation units. Reading one checks
and builds at once, and the first violation of the format ends it. Where a list
or a mapping is expected, a value that stands for nothing counts as empty.

A fault carries the trail from the value at which reading began to the place
of the violation, so reading itself does not know where its value stands, and
the location of that value is put in front when the fault is shown.
-/

namespace CompilePolicy.Descriptor

open CompilePolicy.Document

/-- One step of a trail. -/
inductive Crumb where
  | key (name : String)
  | index (position : Nat)
  /-- The name of the class that the rest of the trail is in. -/
  | className (name : String)
deriving DecidableEq, Repr

/-- What can be wrong at a place of a descriptor. -/
inductive Problem where
  | notMapping (typeName : String)
  | missingName
  | notFlag (shown : String)
  | notList
  | notDocument (typeName : String)
  /-- A whole number has too many digits to become a text. -/
  | tooManyDigits
deriving DecidableEq, Repr

/-- A problem and the trail that leads to it. -/
structure Fault where
  trail : List Crumb
  problem : Problem
deriving DecidableEq, Repr

/-- A step of a trail as text. -/
def Crumb.text : Crumb → String
  | .key name => "." ++ name
  | .index position => "[" ++ Decimal.natText position ++ "]"
  | .className name => " " ++ name

/-- The words for a problem, after the place. -/
def Problem.words : Problem → String
  | .notMapping typeName => ": expected a mapping, got " ++ typeName
  | .missingName => ": missing 'name'"
  | .notFlag shown => ": expected true or false, got " ++ shown
  | .notList => ": expected a list"
  | .notDocument typeName => "Tree descriptor must be a mapping or a list, got " ++ typeName
  | .tooManyDigits => unshownMessage

/-- The message of a fault in a value that stands at `location`. A problem of
the whole document, and a number without a text, have no place. -/
def Fault.message (location : String) (fault : Fault) : String :=
  match fault.problem with
  | .notDocument _ => fault.problem.words
  | .tooManyDigits => fault.problem.words
  | _ => location ++ String.join (fault.trail.map Crumb.text) ++ fault.problem.words

/-- What reading gives. -/
abbrev Reading (α : Type) := Except Fault α

/-- Puts steps in front of the trail of a fault. -/
def under {α : Type} (crumbs : List Crumb) : Reading α → Reading α
  | .ok value => .ok value
  | .error fault => .error { fault with trail := crumbs ++ fault.trail }

/-- A problem at the value at which reading stands. -/
def refuse {α : Type} (problem : Problem) : Reading α :=
  .error ⟨[], problem⟩

/-- The text of a value. -/
def textOf (value : Value) : Reading String :=
  match value.text? with
  | some text => .ok text
  | none => refuse .tooManyDigits

/-- The texts of several values. -/
def textsOf (values : List Value) : Reading (List String) :=
  match texts? values with
  | some texts => .ok texts
  | none => refuse .tooManyDigits

/-- The entries of a value that has to be a mapping. -/
def mappingOf (value : Value) : Reading Entries :=
  match value.entries? with
  | some entries => .ok entries
  | none => refuse (.notMapping value.typeName)

/-- The name in a mapping, a text that is not empty. -/
def nameIn (entries : Entries) : Reading String :=
  match entries.get "name" with
  | .string name => if name = "" then refuse .missingName else .ok name
  | _ => refuse .missingName

/-- The flag under a key: true or false, and false if it is missing or null. -/
def flagIn (entries : Entries) (key : String) : Reading Bool :=
  match entries.get key with
  | .null => .ok false
  | .bool flag => .ok flag
  | value =>
    match value.shown? with
    | some shown => under [.key key] (refuse (.notFlag shown))
    | none => refuse .tooManyDigits

/-- The list under a key. A value that stands for nothing is an empty list. -/
def listIn (entries : Entries) (key : String) : Reading (List Value) :=
  let value := entries.get key
  if value.isTruthy then
    match value.items? with
    | some items => .ok items
    | none => under [.key key] (refuse .notList)
  else .ok []

/-- Reads the items of a list in order, counting from `position`. -/
def readItems {α : Type} (read : Value → Reading α) : Nat → List Value → Reading (List α)
  | _, [] => .ok []
  | position, item :: rest =>
    match under [.index position] (read item) with
    | .error fault => .error fault
    | .ok result =>
      match readItems read (position + 1) rest with
      | .error fault => .error fault
      | .ok results => .ok (result :: results)

/-- Reads the list under a key. -/
def readListIn {α : Type} (entries : Entries) (key : String) (read : Value → Reading α) :
    Reading (List α) :=
  match listIn entries key with
  | .error fault => .error fault
  | .ok items => under [.key key] (readItems read 0 items)

/-- The short names that annotations can be given by. -/
def fullName (name : String) : String :=
  if name = "CompileStatic" then compileStatic
  else if name = "CompileDynamic" then compileDynamic
  else name

/-- What an annotation member was given. The text of a mapping that contains itself is
that of its knot, so the knot is opened only for lists and pairs. -/
def readArgument (value : Value) : Reading Argument :=
  match value.untie with
  | .null => .ok .absent
  | .list items => (textsOf items).map .list
  | .pair first second => (textsOf [first, second]).map .list
  | _ => (textOf value).map .single

/-- The members of an annotation. Keys of one text are one member, which keeps
its first place and takes the last argument. -/
def readMembers : Entries → List (String × Argument) → Reading (List (String × Argument))
  | [], members => .ok members
  | (key, value) :: rest, members => do
    let name ← textOf key
    let argument ← readArgument value
    readMembers rest (setField members name argument)

/-- Reads an annotation, written as its name or as a mapping. -/
def readAnnotation (value : Value) : Reading Annotation :=
  match value with
  | .string name => .ok { name := fullName name }
  | _ => do
    let entries ← mappingOf value
    let name ← nameIn entries
    let given := entries.get "members"
    let members ← under [.key "members"]
      (mappingOf (if given.isTruthy then given else .map []))
    let arguments ← readMembers members []
    .ok { name := fullName name, members := arguments }

/-- Reads the annotations in a mapping. -/
def readAnnotations (entries : Entries) : Reading (List Annotation) :=
  readListIn entries "annotations" readAnnotation

/-- Reads a field. -/
def readField (value : Value) : Reading Field := do
  let entries ← mappingOf value
  let name ← nameIn entries
  let isDynamic ← flagIn entries "dynamically_typed"
  let annotations ← readAnnotations entries
  .ok { name, isDynamic, annotations }

/-- Reads a parameter. -/
def readParameter (value : Value) : Reading Parameter := do
  let entries ← mappingOf value
  let name ← nameIn entries
  let isDynamic ← flagIn entries "dynamically_typed"
  .ok { name, isDynamic }

/-- Reads a method; its parameters are read before its own name. -/
def readMethod (value : Value) : Reading Method := do
  let entries ← mappingOf value
  let parameters ← readListIn entries "parameters" readParameter
  let name ← nameIn entries
  let returnsDynamic ← flagIn entries "dynamic_return_type"
  let annotations ← readAnnotations entries
  .ok { name, returnsDynamic, annotations, parameters }

/-- Reads what a class declares besides its name; its own annotations are read
last. -/
def readClassBody (entries : Entries) (name : String) : Reading ClassDecl := do
  let fields ← readListIn entries "fields" readField
  let methods ← readListIn entries "methods" readMethod
  let annotations ← readAnnotations entries
  match entries.get "package" with
  | .null => .ok { name, annotations, fields, methods }
  | value => do
    let package ← textOf value
    .ok { name, annotations, fields, methods, package := some package }

/-- Reads a class. -/
def readClass (value : Value) : Reading ClassDecl := do
  let entries ← mappingOf value
  let name ← nameIn entries
  under [.className name] (readClassBody entries name)

/-- The name of a unit: any value's text, and the empty text if it is not
written. -/
def readUnitName (entries : Entries) : Reading String :=
  match entries.get? "name" with
  | none => .ok ""
  | some value => textOf value

/-- The directory of a unit, if the value stands for something. -/
def readTarget (entries : Entries) : Reading (Option String) :=
  let value := entries.get "target_directory"
  if value.isTruthy then (textOf value).map some else .ok none

/-- Reads a compilation unit. -/
def readUnit (value : Value) : Reading CompilationUnit := do
  let entries ← mappingOf value
  let name ← readUnitName entries
  let targetDirectory ← readTarget entries
  let classes ← readListIn entries "classes" readClass
  .ok { name, targetDirectory, classes }

/-- The unit descriptors of a document: the items of a list, the list under
`units`, or the one mapping itself. -/
def unitItems (value : Value) : Reading (List Value) :=
  match value.items? with
  | some items => .ok items
  | none =>
    match value.entries? with
    | some entries =>
      match entries.get? "units" with
      | some units =>
        if units.isTruthy then
          match units.items? with
          | some items => .ok items
          | none => refuse .notList
        else .ok []
      | none => .ok [value]
    | none => refuse (.notDocument value.typeName)

/-- Reads a descriptor document. Its faults are located from `unitsLocation`. -/
def readUnits (value : Value) : Reading (List CompilationUnit) := do
  let items ← unitItems value
  readItems readUnit 0 items

/-- Where the trails of a document's faults begin. -/
def unitsLocation : String := "units"

example : fullName "CompileStatic" = "groovy.transform.CompileStatic" := by decide

end CompilePolicy.Descriptor

namespace CompilePolicy

open CompilePolicy.Document

/-- What a member is written as: null, a text, or a list of texts. -/
def Argument.toValue : Argument → Value
  | .absent => .null
  | .single value => .string value
  | .list items => .strings items

/-- An annotation as a mapping with its name and its members. -/
def Annotation.toRecord (note : Annotation) : Value :=
  .record [
    ("name", .string note.name),
    ("members", .record (note.members.map fun member => (member.1, member.2.toValue)))]

end CompilePolicy

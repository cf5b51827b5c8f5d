import CompilePolicy.Text.Split

/-!
# The checked tree

A compilation unit declares classes, a class has fields and methods, and a
method has parameters. Classes, fields and methods carry annotations, whose
members are tagged by the form of what they were given.
-/

namespace CompilePolicy

/-- What an annotation member was given: nothing, one value, or a list. -/
inductive Argument where
  | absent
  | single (value : String)
  | list (items : List String)
deriving DecidableEq, Repr

/-- The name of an argument's form. -/
def Argument.kind : Argument → String
  | .absent => "absent"
  | .single _ => "value"
  | .list _ => "list"

/-- The value of a single-value argument. -/
def Argument.value? : Argument → Option String
  | .single value => some value
  | _ => none

/-- The items of a list argument, and none for the other forms. -/
def Argument.items : Argument → List String
  | .list items => items
  | _ => []

/-- An annotation with its members in order. -/
structure Annotation where
  name : String
  members : List (String × Argument) := []
deriving DecidableEq, Repr

/-- What a member was given; a member that is not written is absent. -/
def Annotation.member (note : Annotation) (name : String) : Argument :=
  (note.members.lookup name).getD .absent

/-- A method parameter. -/
structure Parameter where
  name : String
  isDynamic : Bool := false
deriving DecidableEq, Repr

/-- A field of a class. -/
structure Field where
  name : String
  isDynamic : Bool := false
  annotations : List Annotation := []
deriving DecidableEq, Repr

/-- A method with its parameters in declaration order. -/
structure Method where
  name : String
  returnsDynamic : Bool := false
  annotations : List Annotation := []
  parameters : List Parameter := []
deriving DecidableEq, Repr

/-- A class with its members in declaration order. The package is the one
declared, if any. -/
structure ClassDecl where
  name : String
  annotations : List Annotation := []
  fields : List Field := []
  methods : List Method := []
  package : Option String := none
deriving DecidableEq, Repr

/-- The package of a class: the declared one, or else what stands before the
last dot of the class name. -/
def ClassDecl.packageName (decl : ClassDecl) : String :=
  match decl.package with
  | some package => package
  | none =>
    match Text.cutAtLast? '.' decl.name.toList with
    | some (package, _) => String.ofList package
    | none => ""

/-- A source unit with the classes it declares. Without a directory for its
compiled classes it is a script. -/
structure CompilationUnit where
  name : String := ""
  targetDirectory : Option String := none
  classes : List ClassDecl := []
deriving DecidableEq, Repr

/-- Whether the unit has a directory for its compiled classes. -/
def CompilationUnit.hasTarget (unit : CompilationUnit) : Bool :=
  match unit.targetDirectory with
  | some directory => directory != ""
  | none => false

/-- A node of the tree that rules look at. -/
inductive Node where
  | ofClass (decl : ClassDecl)
  | ofField (field : Field)
  | ofMethod (method : Method)
  | ofParameter (parameter : Parameter)
deriving DecidableEq, Repr

/-- The word for a node's kind. -/
def Node.kind : Node → String
  | .ofClass _ => "class"
  | .ofField _ => "field"
  | .ofMethod _ => "method"
  | .ofParameter _ => "parameter"

/-- The name of a node. -/
def Node.name : Node → String
  | .ofClass decl => decl.name
  | .ofField field => field.name
  | .ofMethod method => method.name
  | .ofParameter parameter => parameter.name

/-- The annotations of a node; parameters carry none. -/
def Node.annotations : Node → List Annotation
  | .ofClass decl => decl.annotations
  | .ofField field => field.annotations
  | .ofMethod method => method.annotations
  | .ofParameter _ => []

/-- Whether a node is typed dynamically. A class has no type to declare. -/
def Node.isDynamic : Node → Bool
  | .ofClass _ => false
  | .ofField field => field.isDynamic
  | .ofMethod method => method.returnsDynamic
  | .ofParameter parameter => parameter.isDynamic

/-- The nodes of a class in the order in which they are checked: the class, its
fields, and each method followed by its parameters. -/
def ClassDecl.nodes (decl : ClassDecl) : List Node :=
  .ofClass decl :: (decl.fields.map .ofField ++
    decl.methods.flatMap fun method => .ofMethod method :: method.parameters.map .ofParameter)

end CompilePolicy

import CompilePolicy.Tree.Basic

/-!
# Questions about annotations

A class or method chooses its compile mode by annotation. These are the
questions that the rules ask of a node's annotations, written once for classes
and methods.
-/

namespace CompilePolicy

/-- The annotation that asks for static compilation. -/
def compileStatic : String := "groovy.transform.CompileStatic"

/-- The annotation that asks for dynamic compilation. -/
def compileDynamic : String := "groovy.transform.CompileDynamic"

/-- The member that lists type-checking extensions. -/
def extensionsMember : String := "extensions"

/-- The member that holds the type-checking mode. -/
def modeMember : String := "value"

/-- The mode that turns static compilation off. -/
def skipMode : String := "SKIP"

/-- Whether some annotation has one of the names. -/
def hasAny (annotations : List Annotation) (names : List String) : Bool :=
  annotations.any fun note => names.contains note.name

/-- Whether an annotation asks for static compilation. -/
def Annotation.isStatic (note : Annotation) : Bool :=
  note.name == compileStatic

/-- The position of the first annotation that asks for static compilation. -/
def markerIndex? (annotations : List Annotation) : Option Nat :=
  annotations.findIdx? (·.isStatic)

/-- The first annotation that asks for static compilation. -/
def marker? (annotations : List Annotation) : Option Annotation :=
  annotations.find? (·.isStatic)

/-- What a mode is called, without the type it belongs to. -/
def modeLiteral (mode : String) : String :=
  match Text.cutAtLast? '.' mode.toList with
  | some (_, literal) => String.ofList literal
  | none => mode

/-- Whether an annotation gives the skip mode as its single value. -/
def Annotation.skips (note : Annotation) : Bool :=
  match note.member modeMember with
  | .single mode => modeLiteral mode == skipMode
  | _ => false

/-- Whether the first annotation that asks for static compilation gives the
skip mode. -/
def hasSkipMode (annotations : List Annotation) : Bool :=
  match marker? annotations with
  | some marker => marker.skips
  | none => false

/-- The extensions that an annotation asks for; only annotations for static
compilation ask for any, and only by a list. -/
def Annotation.extensions (note : Annotation) : List String :=
  if note.isStatic then (note.member extensionsMember).items else []

/-- The extensions asked for that are not allowed, in order and with repeats. -/
def disallowedExtensions (annotations : List Annotation) (allowed : List String) : List String :=
  annotations.flatMap fun note =>
    note.extensions.filter fun extension => !allowed.contains extension

/-- Whether some extension asked for is not allowed. -/
def violatesExtensionLimit (annotations : List Annotation) (allowed : List String) : Bool :=
  !(disallowedExtensions annotations allowed).isEmpty

theorem hasAny_iff (annotations : List Annotation) (names : List String) :
    hasAny annotations names = true ↔ ∃ note ∈ annotations, note.name ∈ names := by
  simp [hasAny]

theorem mem_disallowedExtensions (annotations : List Annotation) (allowed : List String)
    (extension : String) :
    extension ∈ disallowedExtensions annotations allowed ↔
      (∃ note ∈ annotations, extension ∈ note.extensions) ∧ extension ∉ allowed := by
  simp only [disallowedExtensions, List.mem_flatMap, List.mem_filter, List.contains_eq_mem,
    Bool.not_eq_true', decide_eq_false_iff_not]
  constructor
  · rintro ⟨note, member, asked, refused⟩
    exact ⟨⟨note, member, asked⟩, refused⟩
  · rintro ⟨⟨note, member, asked⟩, refused⟩
    exact ⟨note, member, asked, refused⟩

end CompilePolicy

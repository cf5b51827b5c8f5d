import CompilePolicy.Engine.Walk
import CompilePolicy.Proofs.Text.Cutting

/-!
# The policy

What a configuration asks of a compilation unit, said without a registry, a
table of rules or a walk. There are seven checks. A check is violated at a node
if the node is of the kind it looks at, the configuration asks for it, it is not
left out, and its condition fails at the node.

A skipped unit is left alone. In any other unit each class is exempt, or it is
checked after a class that has not chosen its compile mode got the marker.
-/

namespace CompilePolicy.Policy

open CompilePolicy.Document

/-! ## Conditions on annotations and names -/

/-- A class name contains an entry of the whitelist. -/
def IsWhitelisted (config : Configuration) (className : String) : Prop :=
  ∃ entry ∈ config.classWhitelist, entry.toList <:+: className.toList

/-- The first annotation for static compilation gives the skip mode, alone or
after the type it belongs to. -/
def SkipsFirst (annotations : List Annotation) : Prop :=
  ∃ front marker back mode,
    annotations = front ++ marker :: back ∧
      (∀ note ∈ front, note.name ≠ compileStatic) ∧ marker.name = compileStatic ∧
      marker.member modeMember = .single mode ∧
      (mode = skipMode ∨ ('.' :: skipMode.toList) <:+ mode.toList)

/-- Annotations opt out of static compilation: one of them asks for dynamic
compilation, or static compilation is skipped. -/
def OptsOut (annotations : List Annotation) : Prop :=
  (∃ note ∈ annotations, note.name = compileDynamic) ∨ SkipsFirst annotations

/-- The extensions that annotations for static compilation list and that are not
allowed, in order and with repeats. -/
def rejected (config : Configuration) (annotations : List Annotation) : List String :=
  ((annotations.filter (·.name = compileStatic)).flatMap fun note =>
    (note.member extensionsMember).items).filter (· ∉ config.allowedExtensions)

/-- A class has chosen its compile mode. -/
def ChoosesMode (decl : ClassDecl) : Prop :=
  ∃ note ∈ decl.annotations, note.name = compileStatic ∨ note.name = compileDynamic

theorem isWhitelisted_eq_true_iff {config : Configuration} {className : String} :
    isWhitelisted className config.classWhitelist = true ↔ IsWhitelisted config className :=
  isWhitelisted_iff className config.classWhitelist

theorem skips_iff {note : Annotation} :
    note.skips = true ↔ ∃ mode, note.member modeMember = .single mode ∧
      (mode = skipMode ∨ ('.' :: skipMode.toList) <:+ mode.toList) := by
  have plain : '.' ∉ skipMode.toList := by decide
  unfold Annotation.skips
  cases note.member modeMember with
  | absent => simp
  | single mode => simp [modeLiteral_eq_iff plain]
  | list items => simp

theorem isStatic_iff {note : Annotation} : note.isStatic = true ↔ note.name = compileStatic :=
  beq_iff_eq

theorem hasSkipMode_iff {annotations : List Annotation} :
    hasSkipMode annotations = true ↔ SkipsFirst annotations := by
  unfold hasSkipMode marker?
  constructor
  · intro skips
    cases found : annotations.find? (·.isStatic) with
    | none => simp [found] at skips
    | some marker =>
        rw [found] at skips
        obtain ⟨isStatic, front, back, whole, others⟩ :=
          List.find?_eq_some_iff_append.mp found
        obtain ⟨mode, given, name⟩ := skips_iff.mp skips
        refine ⟨front, marker, back, mode, whole, ?_, ?_, given, name⟩
        · intro note member
          simpa [← isStatic_iff] using others note member
        · exact isStatic_iff.mp isStatic
  · rintro ⟨front, marker, back, mode, whole, others, isStatic, given, name⟩
    have found : annotations.find? (·.isStatic) = some marker := by
      refine List.find?_eq_some_iff_append.mpr ⟨?_, front, back, whole, ?_⟩
      · exact isStatic_iff.mpr isStatic
      · intro note member
        simpa [← isStatic_iff] using others note member
    rw [found]
    exact skips_iff.mpr ⟨mode, given, name⟩

theorem optsOut_iff {node : Node} : optsOut node = true ↔ OptsOut node.annotations := by
  simp [optsOut, OptsOut, hasAny_iff, hasSkipMode_iff]

theorem disallowedExtensions_eq (config : Configuration) (annotations : List Annotation) :
    disallowedExtensions annotations config.allowedExtensions = rejected config annotations := by
  induction annotations with
  | nil => rfl
  | cons note rest ih =>
      have step : disallowedExtensions (note :: rest) config.allowedExtensions =
          note.extensions.filter (!config.allowedExtensions.contains ·) ++
            disallowedExtensions rest config.allowedExtensions := rfl
      rw [step, ih]
      by_cases isStatic : note.name = compileStatic
      · simp [rejected, Annotation.extensions, Annotation.isStatic, isStatic]
      · simp [rejected, Annotation.extensions, Annotation.isStatic, isStatic]

/-! ## Units and classes that are not checked -/

/-- A unit is not walked: nothing is checked at all, or scripts are not and the
unit has no directory for its classes. -/
def IsSkipped (config : Configuration) (unit : CompilationUnit) : Prop :=
  config.globalDisable = true ∨
    config.scriptsExempt = true ∧ ∀ directory, unit.targetDirectory = some directory → directory = ""

/-- A class is not checked: it is on the whitelist, or the default package is not
checked and the class is in it. -/
def IsExempt (config : Configuration) (decl : ClassDecl) : Prop :=
  IsWhitelisted config decl.name ∨ config.skipDefaultPackage = true ∧ decl.packageName = ""

theorem skipReason?_eq_none_iff {config : Configuration} {unit : CompilationUnit} :
    skipReason? config unit = none ↔ ¬IsSkipped config unit := by
  unfold skipReason? IsSkipped CompilationUnit.hasTarget
  cases unit.targetDirectory <;> grind

theorem exemption?_eq_none_iff {config : Configuration} {decl : ClassDecl} :
    exemption? config decl = none ↔ ¬IsExempt config decl := by
  unfold exemption? IsExempt
  rw [← isWhitelisted_eq_true_iff]
  split <;> simp_all

theorem choosesMode_iff {decl : ClassDecl} : choosesMode decl = true ↔ ChoosesMode decl := by
  simp [choosesMode, ChoosesMode, hasAny_iff]

instance (config : Configuration) (className : String) :
    Decidable (IsWhitelisted config className) :=
  decidable_of_iff _ isWhitelisted_eq_true_iff

instance (annotations : List Annotation) : Decidable (SkipsFirst annotations) :=
  decidable_of_iff _ hasSkipMode_iff

instance (annotations : List Annotation) : Decidable (OptsOut annotations) :=
  inferInstanceAs (Decidable (_ ∨ _))

instance (decl : ClassDecl) : Decidable (ChoosesMode decl) :=
  inferInstanceAs (Decidable (∃ _ ∈ _, _))

instance (config : Configuration) (unit : CompilationUnit) : Decidable (IsSkipped config unit) :=
  decidable_of_iff ((skipReason? config unit).isSome = true) (by
    rw [← Option.ne_none_iff_isSome, ne_eq, skipReason?_eq_none_iff]
    exact Classical.not_not)

instance (config : Configuration) (decl : ClassDecl) : Decidable (IsExempt config decl) :=
  inferInstanceAs (Decidable (_ ∨ _))

theorem isSkipped_of_skipReason? {config : Configuration} {unit : CompilationUnit}
    {reason : SkipReason} (skips : skipReason? config unit = some reason) :
    IsSkipped config unit := by
  apply Decidable.byContradiction
  intro walked
  rw [skipReason?_eq_none_iff.mpr walked] at skips
  contradiction

/-! ## Checks -/

/-- The checks, by what they look at. -/
inductive Check where
  | classMode
  | classExtensions
  | fieldType
  | methodType
  | methodMode
  | methodExtensions
  | parameterType
deriving DecidableEq, Repr

namespace Check

/-- The checks in the order in which they are made at a node. -/
def all : List Check :=
  [.classMode, .classExtensions, .fieldType, .methodType, .methodMode, .methodExtensions,
   .parameterType]

/-- The id by which a check is reported and left out. -/
def id : Check → String
  | .classMode => "DYNAMIC_COMPILE_CLASS"
  | .classExtensions => "EXTENSION_LIMIT_CLASS"
  | .fieldType => "DEF_FIELD"
  | .methodType => "DEF_METHOD"
  | .methodMode => "DYNAMIC_COMPILE_METHOD"
  | .methodExtensions => "EXTENSION_LIMIT_METHOD"
  | .parameterType => "DEF_PARAMETER"

/-- The kind of nodes that a check looks at. -/
def scope : Check → Scope
  | .classMode => .ofClass
  | .classExtensions => .ofClass
  | .fieldType => .ofField
  | .methodType => .ofMethod
  | .methodMode => .ofMethod
  | .methodExtensions => .ofMethod
  | .parameterType => .ofParameter

/-- Whether a configuration asks for a check. -/
def isAsked (config : Configuration) : Check → Bool
  | .classMode => config.disableDynamicCompile
  | .classExtensions => config.limitExtensions
  | .fieldType => !config.dynamicTypingAllowed
  | .methodType => !config.dynamicTypingAllowed
  | .methodMode => config.disableDynamicCompile
  | .methodExtensions => config.limitExtensions
  | .parameterType => !config.dynamicTypingAllowed

/-- The condition under which a check reports a node of a class. -/
def Fails (config : Configuration) (className : String) (node : Node) : Check → Prop
  | .classMode => ¬IsWhitelisted config className ∧ OptsOut node.annotations
  | .classExtensions => rejected config node.annotations ≠ []
  | .fieldType => node.isDynamic = true
  | .methodType => node.isDynamic = true
  | .methodMode => ¬IsWhitelisted config className ∧ OptsOut node.annotations
  | .methodExtensions => rejected config node.annotations ≠ []
  | .parameterType => node.isDynamic = true

instance (config : Configuration) (className : String) (node : Node) :
    (check : Check) → Decidable (check.Fails config className node)
  | .classMode => inferInstanceAs (Decidable (¬_ ∧ _))
  | .classExtensions => inferInstanceAs (Decidable (_ ≠ _))
  | .fieldType => inferInstanceAs (Decidable (_ = _))
  | .methodType => inferInstanceAs (Decidable (_ = _))
  | .methodMode => inferInstanceAs (Decidable (¬_ ∧ _))
  | .methodExtensions => inferInstanceAs (Decidable (_ ≠ _))
  | .parameterType => inferInstanceAs (Decidable (_ = _))

/-- What a check says. -/
def message (config : Configuration) : Check → String
  | .classMode => "Dynamic Compilation is not allowed for this class."
  | .classExtensions => "Compile Static extensions are limited to: " ++ config.extensionsText
  | .fieldType => "def is not allowed for variables."
  | .methodType => "def is not allowed for methods."
  | .methodMode => "Dynamic Compilation is not allowed for this method."
  | .methodExtensions => "Compile Static extensions are limited to: " ++ config.extensionsText
  | .parameterType => "Dynamically typed parameters are not allowed."

/-- What a check attaches to its report: the rejected extensions. -/
def metadata (config : Configuration) (node : Node) : Check → List (String × Value)
  | .classExtensions => [("rejected", .strings (rejected config node.annotations))]
  | .methodExtensions => [("rejected", .strings (rejected config node.annotations))]
  | _ => []

/-- The report of a check at a node. -/
def report (config : Configuration) (unitName className : String) (node : Node) (check : Check) :
    Diagnostic where
  message := check.message config
  subject := .node node
  ruleId := check.id
  owner := className
  unit := unitName
  metadata := check.metadata config node

/-- A check is made and fails at a node of a class. -/
structure IsViolated (config : Configuration) (skipped : List String) (className : String)
    (node : Node) (check : Check) : Prop where
  fits : check.scope = node.scope
  asked : check.isAsked config = true
  kept : check.id ∉ skipped
  fails : check.Fails config className node

theorem isViolated_iff {config : Configuration} {skipped : List String} {className : String}
    {node : Node} {check : Check} :
    check.IsViolated config skipped className node ↔
      check.scope = node.scope ∧ check.isAsked config = true ∧ check.id ∉ skipped ∧
        check.Fails config className node :=
  ⟨fun ⟨fits, asked, kept, fails⟩ => ⟨fits, asked, kept, fails⟩,
    fun ⟨fits, asked, kept, fails⟩ => ⟨fits, asked, kept, fails⟩⟩

instance (config : Configuration) (skipped : List String) (className : String) (node : Node)
    (check : Check) : Decidable (check.IsViolated config skipped className node) :=
  decidable_of_iff _ isViolated_iff.symm

end Check

/-! ## What becomes of a unit -/

/-- The marker lists the allowed extensions, if there are any. -/
def marker (config : Configuration) : Annotation where
  name := compileStatic
  members :=
    if config.allowedExtensions = [] then []
    else [(extensionsMember, .list config.allowedExtensions)]

/-- A class as it is checked: the marker comes last, unless the class has chosen its
mode. -/
def marked (config : Configuration) (decl : ClassDecl) : ClassDecl :=
  if ChoosesMode decl then decl
  else { decl with annotations := decl.annotations ++ [marker config] }

/-- The checks that are violated at a node of a class, in order. -/
def violations (config : Configuration) (skipped : List String) (className : String)
    (node : Node) : List Check :=
  Check.all.filter (·.IsViolated config skipped className node)

/-- The reports at a node of a class. -/
def nodeReports (config : Configuration) (skipped : List String) (unitName className : String)
    (node : Node) : List Diagnostic :=
  (violations config skipped className node).map (·.report config unitName className node)

/-- The reports in a class: those at the class itself, at its fields, and at each
method with its parameters after it. -/
def classReports (config : Configuration) (skipped : List String) (unitName : String)
    (decl : ClassDecl) : List Diagnostic :=
  let reports := nodeReports config skipped unitName decl.name
  reports (.ofClass decl) ++
    (decl.fields.flatMap (reports <| .ofField ·) ++
      decl.methods.flatMap fun method =>
        reports (.ofMethod method) ++ method.parameters.flatMap (reports <| .ofParameter ·))

/-- What a walk of a unit reports, but for its time. -/
def outcome (config : Configuration) (skipped : List String) (unit : CompilationUnit) : Outcome :=
  if IsSkipped config unit then { unitsSkipped := [unit.name] }
  else
    let checked := unit.classes.filter (¬IsExempt config ·)
    { unitsProcessed := [unit.name]
      classesExempt := (unit.classes.filter (IsExempt config ·)).map (·.name)
      classesChecked := checked.map (·.name)
      classesAnnotated := (checked.filter (¬ChoosesMode ·)).map (·.name)
      rulesRun :=
        (Check.all.filter fun check => check.isAsked config ∧ check.id ∉ skipped).map (·.id)
      diagnostics :=
        checked.flatMap fun decl => classReports config skipped unit.name (marked config decl) }

/-- A unit after its walk. -/
def unitAfter (config : Configuration) (unit : CompilationUnit) : CompilationUnit :=
  if IsSkipped config unit then unit
  else
    { unit with
      classes := unit.classes.map fun decl =>
        if IsExempt config decl then decl else marked config decl }

end CompilePolicy.Policy

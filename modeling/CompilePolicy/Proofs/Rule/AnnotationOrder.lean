import CompilePolicy.Proofs.Engine.Violation
import Mathlib.Data.List.Forall2

/-!
# The order of annotations

The rules against opting out look for `CompileDynamic` anywhere among the annotations of a
node, but for the skip mode only at the first `CompileStatic`. So a skip mode that stands
behind a `CompileStatic` without one is hidden from them, and the order of annotations can
decide whether a node is reported. The rules about extensions look at every `CompileStatic`,
and to all other rules annotations are nothing.
-/

namespace CompilePolicy

open Document

/-- A node with other annotations; a parameter has none. -/
def Node.withAnnotations (node : Node) (annotations : List Annotation) : Node :=
  match node with
  | .ofClass decl => .ofClass { decl with annotations }
  | .ofField field => .ofField { field with annotations }
  | .ofMethod method => .ofMethod { method with annotations }
  | .ofParameter parameter => .ofParameter parameter

namespace Node

variable {node : Node}

theorem annotations_withAnnotations {annotations : List Annotation}
    (same : node.annotations.Perm annotations) :
    (node.withAnnotations annotations).annotations = annotations := by
  cases node with
  | ofParameter parameter => exact same.nil_eq
  | _ => rfl

@[simp]
theorem scope_withAnnotations (annotations : List Annotation) :
    (node.withAnnotations annotations).scope = node.scope := by
  cases node <;> rfl

@[simp]
theorem isDynamic_withAnnotations (annotations : List Annotation) :
    (node.withAnnotations annotations).isDynamic = node.isDynamic := by
  cases node <;> rfl

theorem kind_withAnnotations (annotations : List Annotation) :
    (node.withAnnotations annotations).kind = node.kind := by
  cases node <;> rfl

theorem name_withAnnotations (annotations : List Annotation) :
    (node.withAnnotations annotations).name = node.name := by
  cases node <;> rfl

end Node

namespace Policy

/-! ## Hidden skip modes -/

/-- An annotation gives the skip mode, alone or after the type it belongs to. -/
def Skips (note : Annotation) : Prop :=
  ∃ mode, note.member modeMember = .single mode ∧
    (mode = skipMode ∨ ('.' :: skipMode.toList) <:+ mode.toList)

/-- The annotations for static compilation. -/
def markers (annotations : List Annotation) : List Annotation :=
  annotations.filter (·.name = compileStatic)

/-- Some annotation asks for dynamic compilation. -/
def AsksDynamic (annotations : List Annotation) : Prop :=
  ∃ note ∈ annotations, note.name = compileDynamic

/-- Some annotation opts out of static compilation, at whatever position. -/
def OptsOutAnywhere (annotations : List Annotation) : Prop :=
  AsksDynamic annotations ∨ ∃ note ∈ annotations, note.name = compileStatic ∧ Skips note

/-- The only annotations that opt out stand behind the first one for static compilation,
which does not skip it. -/
def HidesSkip (annotations : List Annotation) : Prop :=
  ¬AsksDynamic annotations ∧ ∃ first rest, markers annotations = first :: rest ∧
    ¬Skips first ∧ ∃ later ∈ rest, Skips later

/-- The annotations can be put in an order that hides those which opt out. -/
def CanHideSkip (annotations : List Annotation) : Prop :=
  ¬AsksDynamic annotations ∧ (∃ note ∈ markers annotations, Skips note) ∧
    ∃ note ∈ markers annotations, ¬Skips note

theorem mem_markers {annotations : List Annotation} {note : Annotation} :
    note ∈ markers annotations ↔ note ∈ annotations ∧ note.name = compileStatic := by
  simp [markers]

theorem optsOutAnywhere_iff {annotations : List Annotation} :
    OptsOutAnywhere annotations ↔
      AsksDynamic annotations ∨ ∃ note ∈ markers annotations, Skips note := by
  simp only [OptsOutAnywhere, mem_markers, and_assoc]

theorem skipsFirst_iff {annotations : List Annotation} :
    SkipsFirst annotations ↔ ∃ first rest, markers annotations = first :: rest ∧ Skips first := by
  rw [← hasSkipMode_iff, hasSkipMode, marker?, ← List.head?_filter]
  have same : annotations.filter (·.isStatic) = markers annotations := by
    apply List.filter_congr
    intro note _
    rw [Bool.eq_iff_iff, isStatic_iff, decide_eq_true_eq]
  rw [same]
  cases markers annotations with
  | nil => simp
  | cons first rest => simp [skips_iff, Skips]

/-- What the rules see of the annotations that opt out: all of them, or none if they are
hidden. -/
theorem optsOut_iff_not_hidesSkip {annotations : List Annotation} :
    OptsOut annotations ↔ OptsOutAnywhere annotations ∧ ¬HidesSkip annotations := by
  change AsksDynamic annotations ∨ SkipsFirst annotations ↔ _
  rw [skipsFirst_iff, optsOutAnywhere_iff, HidesSkip]
  cases markers annotations with
  | nil => simp
  | cons first rest =>
      by_cases skips : Skips first
      · simp [skips]
      · simp only [List.cons.injEq, List.mem_cons, exists_eq_or_imp, skips]
        grind

theorem optsOutAnywhere_of_hidesSkip {annotations : List Annotation}
    (hides : HidesSkip annotations) : OptsOutAnywhere annotations := by
  obtain ⟨-, first, rest, listed, -, later, behind, skips⟩ := hides
  refine optsOutAnywhere_iff.mpr (.inr ⟨later, ?_, skips⟩)
  rw [listed]
  exact List.mem_cons_of_mem first behind

/-! ## Annotations in another order -/

section

variable {annotations reordered : List Annotation} (same : annotations.Perm reordered)
include same

theorem asksDynamic_perm : AsksDynamic annotations ↔ AsksDynamic reordered := by
  simp only [AsksDynamic, same.mem_iff]

/-- Whether some annotation opts out does not depend on their order. -/
theorem optsOutAnywhere_perm : OptsOutAnywhere annotations ↔ OptsOutAnywhere reordered := by
  simp only [OptsOutAnywhere, asksDynamic_perm same, same.mem_iff]

/-- The extensions that are rejected are the same but for their order. -/
theorem rejected_perm (config : Configuration) :
    (rejected config annotations).Perm (rejected config reordered) :=
  ((same.filter _).flatMap_right _).filter _

theorem canHideSkip_of_hidesSkip (hides : HidesSkip reordered) : CanHideSkip annotations := by
  obtain ⟨silent, first, rest, listed, plain, later, behind, skips⟩ := hides
  have among : ∀ note ∈ first :: rest, note ∈ markers annotations := by
    intro note isMarker
    rw [← listed, mem_markers, ← same.mem_iff] at isMarker
    exact mem_markers.mpr isMarker
  exact ⟨(asksDynamic_perm same).not.mpr silent,
    ⟨later, among later (List.mem_cons_of_mem first behind), skips⟩,
    ⟨first, among first List.mem_cons_self, plain⟩⟩

end

/-- An annotation can be put in front of the others. -/
theorem exists_perm_markers {annotations : List Annotation} {note : Annotation}
    (listed : note ∈ markers annotations) :
    ∃ reordered rest, annotations.Perm reordered ∧ markers reordered = note :: rest := by
  obtain ⟨isNote, isStatic⟩ := mem_markers.mp listed
  obtain ⟨front, back, rfl⟩ := List.append_of_mem isNote
  exact ⟨note :: (front ++ back), markers (front ++ back), List.perm_middle, by
    simp [markers, isStatic]⟩

/-- Annotations that can hide a skip mode do so in one order, and not in another one. -/
theorem CanHideSkip.exists_perm {annotations : List Annotation} (mixed : CanHideSkip annotations) :
    (∃ reordered, annotations.Perm reordered ∧ HidesSkip reordered) ∧
      ∃ reordered, annotations.Perm reordered ∧ ¬HidesSkip reordered := by
  obtain ⟨silent, ⟨skipping, isMarker, skips⟩, ⟨plain, isPlain, keeps⟩⟩ := mixed
  constructor
  -- Behind the one that does not skip, the one that does is still there.
  · obtain ⟨reordered, rest, same, first⟩ := exists_perm_markers isPlain
    refine ⟨reordered, same, (asksDynamic_perm same).not.mp silent, plain, rest, first, keeps,
      skipping, ?_, skips⟩
    have still : skipping ∈ plain :: rest := by
      rw [← first, mem_markers, ← same.mem_iff, ← mem_markers]
      exact isMarker
    exact (List.mem_cons.mp still).resolve_left fun equal => keeps (equal ▸ skips)
  · obtain ⟨reordered, rest, same, first⟩ := exists_perm_markers isMarker
    refine ⟨reordered, same, ?_⟩
    rintro ⟨-, other, others, listed, hidden, -⟩
    rw [first, List.cons.injEq] at listed
    exact hidden (listed.1 ▸ skips)

/-! ## Reports -/

/-- What the built-in rules report at a node of a class. -/
def reportsAt (config : Configuration) (skipped : List String) (unitName : String)
    (owner : ClassDecl) (node : Node) : List Diagnostic :=
  reported (checkNode config (Registry.builtIn.activeRules config skipped) unitName owner node)

/-- The built-in rule of an id reports a node of a class. -/
def IsReportedBy (config : Configuration) (skipped : List String) (unitName : String)
    (owner : ClassDecl) (node : Node) (id : String) : Prop :=
  ∃ report ∈ reportsAt config skipped unitName owner node, report.ruleId = id

/-- The ids of the checks against opting out. -/
def modeIds : List String :=
  [Check.classMode.id, Check.methodMode.id]

/-- A check against opting out that is made at a node of a class. -/
structure Check.LooksForOptOut (config : Configuration) (skipped : List String)
    (owner : ClassDecl) (node : Node) (check : Check) : Prop where
  isMode : check.id ∈ modeIds
  fits : check.scope = node.scope
  asked : config.disableDynamicCompile = true
  kept : check.id ∉ skipped
  free : ¬IsWhitelisted config owner.name

theorem Check.id_injective : Function.Injective Check.id := by
  intro one other
  cases one <;> cases other <;> decide

section

variable {config : Configuration} {skipped : List String} {unitName : String}
variable {owner later : ClassDecl} {node : Node} {check : Check}

theorem isReportedBy_iff :
    IsReportedBy config skipped unitName owner node check.id ↔
      check.IsViolated config skipped owner.name node := by
  rw [← mem_violations, IsReportedBy, reportsAt, reported_checkNode, nodeReports]
  constructor
  · rintro ⟨report, listed, same⟩
    obtain ⟨violated, isViolated, rfl⟩ := List.mem_map.mp listed
    rwa [← Check.id_injective same]
  · exact fun violated => ⟨_, List.mem_map.mpr ⟨check, violated, rfl⟩, rfl⟩

/-- A check against opting out is violated where it is made and some annotation opts out. -/
theorem isViolated_mode_iff (isMode : check.id ∈ modeIds) :
    check.IsViolated config skipped owner.name node ↔
      check.LooksForOptOut config skipped owner node ∧ OptsOut node.annotations := by
  have own : check.isAsked config = config.disableDynamicCompile ∧
      (check.Fails config owner.name node ↔
        ¬IsWhitelisted config owner.name ∧ OptsOut node.annotations) := by
    cases check with
    | classMode => exact ⟨rfl, .rfl⟩
    | methodMode => exact ⟨rfl, .rfl⟩
    | _ => exact absurd isMode (by decide)
  constructor
  · rintro ⟨fits, asked, kept, fails⟩
    obtain ⟨free, out⟩ := own.2.mp fails
    exact ⟨⟨isMode, fits, own.1 ▸ asked, kept, free⟩, out⟩
  · rintro ⟨⟨-, fits, asked, kept, free⟩, out⟩
    exact ⟨fits, own.1 ▸ asked, kept, own.2.mpr ⟨free, out⟩⟩

/-- A check against opting out reports a node exactly if some annotation opts out and is
not hidden. -/
theorem Check.LooksForOptOut.isReportedBy_iff
    (looks : check.LooksForOptOut config skipped owner node) :
    IsReportedBy config skipped unitName owner node check.id ↔
      OptsOutAnywhere node.annotations ∧ ¬HidesSkip node.annotations := by
  rw [Policy.isReportedBy_iff, isViolated_mode_iff looks.isMode, optsOut_iff_not_hidesSkip]
  exact and_iff_right looks

/-! ## Nodes with their annotations in another order -/

/-- Whether a check looks for an opt-out at a node does not depend on its annotations. -/
theorem looksForOptOut_withAnnotations_iff (annotations : List Annotation)
    (named : later.name = owner.name) :
    check.LooksForOptOut config skipped later (node.withAnnotations annotations) ↔
      check.LooksForOptOut config skipped owner node := by
  constructor
  · rintro ⟨isMode, fits, asked, kept, free⟩
    exact ⟨isMode, fits.trans (Node.scope_withAnnotations annotations), asked, kept, named ▸ free⟩
  · rintro ⟨isMode, fits, asked, kept, free⟩
    exact ⟨isMode, fits.trans (Node.scope_withAnnotations annotations).symm, asked, kept,
      named ▸ free⟩

/-- The annotations that opt out are the same in any order, and only whether they are hidden
is not. -/
theorem Check.LooksForOptOut.isReportedBy_withAnnotations_iff
    (looks : check.LooksForOptOut config skipped owner node) {annotations : List Annotation}
    (same : node.annotations.Perm annotations) (named : later.name = owner.name) :
    IsReportedBy config skipped unitName later (node.withAnnotations annotations) check.id ↔
      OptsOutAnywhere node.annotations ∧ ¬HidesSkip annotations := by
  rw [((looksForOptOut_withAnnotations_iff annotations named).mpr looks).isReportedBy_iff,
    Node.annotations_withAnnotations same, optsOutAnywhere_perm same]

/-- A check against opting out gives the same answer in all orders exactly if none of them
hides a skip mode. -/
theorem Check.LooksForOptOut.steady_iff (looks : check.LooksForOptOut config skipped owner node) :
    (∀ annotations later, node.annotations.Perm annotations → later.name = owner.name →
        (IsReportedBy config skipped unitName later (node.withAnnotations annotations) check.id ↔
          IsReportedBy config skipped unitName owner node check.id)) ↔
      ¬CanHideSkip node.annotations := by
  constructor
  · intro steady mixed
    obtain ⟨⟨back, sameBack, hides⟩, front, sameFront, shows⟩ := mixed.exists_perm
    have out : OptsOutAnywhere node.annotations :=
      (optsOutAnywhere_perm sameBack).mpr (optsOutAnywhere_of_hidesSkip hides)
    have reported : IsReportedBy config skipped unitName owner (node.withAnnotations front)
        check.id := (looks.isReportedBy_withAnnotations_iff sameFront rfl).mpr ⟨out, shows⟩
    rw [steady front owner sameFront rfl, ← steady back owner sameBack rfl,
      looks.isReportedBy_withAnnotations_iff sameBack rfl] at reported
    exact reported.2 hides
  · intro plain annotations later same named
    rw [looks.isReportedBy_withAnnotations_iff same named, looks.isReportedBy_iff,
      iff_false_intro fun hides => plain (canHideSkip_of_hidesSkip same hides),
      iff_false_intro fun hides => plain (canHideSkip_of_hidesSkip (.refl _) hides)]

/-- A check that does not look for an opt-out fails in one order of annotations as in
another. -/
theorem fails_withAnnotations {annotations : List Annotation}
    (same : node.annotations.Perm annotations) (other : check.id ∉ modeIds) (className : String) :
    check.Fails config className (node.withAnnotations annotations) ↔
      check.Fails config className node := by
  have listed : rejected config annotations = [] ↔ rejected config node.annotations = [] := by
    rw [← List.length_eq_zero_iff, ← List.length_eq_zero_iff, (rejected_perm same config).length_eq]
  cases check with
  | classMode => exact absurd (by decide) other
  | methodMode => exact absurd (by decide) other
  | classExtensions =>
      simp only [Check.Fails, Node.annotations_withAnnotations same, ne_eq, listed]
  | methodExtensions =>
      simp only [Check.Fails, Node.annotations_withAnnotations same, ne_eq, listed]
  | _ => simp only [Check.Fails, Node.isDynamic_withAnnotations]

/-- A check is violated in one order of annotations as in another, if it does not look for
an opt-out or the same is hidden from it. -/
theorem isViolated_withAnnotations {annotations : List Annotation}
    (same : node.annotations.Perm annotations) (named : later.name = owner.name)
    (seen : check.LooksForOptOut config skipped owner node →
      (HidesSkip node.annotations ↔ HidesSkip annotations)) :
    check.IsViolated config skipped later.name (node.withAnnotations annotations) ↔
      check.IsViolated config skipped owner.name node := by
  by_cases isMode : check.id ∈ modeIds
  · rw [isViolated_mode_iff isMode, isViolated_mode_iff isMode,
      looksForOptOut_withAnnotations_iff annotations named, and_congr_right_iff]
    intro looks
    rw [Node.annotations_withAnnotations same, optsOut_iff_not_hidesSkip,
      optsOut_iff_not_hidesSkip, optsOutAnywhere_perm same, seen looks]
  · rw [Check.isViolated_iff, Check.isViolated_iff, Node.scope_withAnnotations,
      fails_withAnnotations same isMode, named]

end

/-- Two diagnostics differ in the order of rejected extensions at most, and in the order of
the annotations of their nodes. -/
structure AgreesUpToOrder (one other : Diagnostic) : Prop where
  message : one.message = other.message
  rule : one.ruleId = other.ruleId
  owner : one.owner = other.owner
  unit : one.unit = other.unit
  kind : one.subject.kind = other.subject.kind
  name : one.subject.name = other.subject.name
  metadata : one.metadata = other.metadata ∨ ∃ rejected reordered,
    one.metadata = [("rejected", .strings rejected)] ∧
      other.metadata = [("rejected", .strings reordered)] ∧ rejected.Perm reordered

section

variable {config : Configuration} {node : Node} {annotations : List Annotation}
variable (same : node.annotations.Perm annotations)
include same

/-- What a check reports is the same but for the order of what it rejects. -/
theorem report_withAnnotations (unitName className : String) (check : Check) :
    AgreesUpToOrder (check.report config unitName className node)
      (check.report config unitName className (node.withAnnotations annotations)) where
  message := rfl
  rule := rfl
  owner := rfl
  unit := rfl
  kind := (Node.kind_withAnnotations annotations).symm
  name := (Node.name_withAnnotations annotations).symm
  metadata := by
    have listed := rejected_perm same config
    cases check with
    | classExtensions =>
        refine .inr ⟨_, _, rfl, rfl, ?_⟩
        rwa [Node.annotations_withAnnotations same]
    | methodExtensions =>
        refine .inr ⟨_, _, rfl, rfl, ?_⟩
        rwa [Node.annotations_withAnnotations same]
    | _ => exact .inl rfl

/-- The reports of some rules agree in both orders if the same is hidden from them. -/
theorem reportsAt_withAnnotations {skipped : List String} (unitName : String)
    {owner later : ClassDecl} (named : later.name = owner.name) (keep : String → Bool)
    (seen : ∀ check : Check, keep check.id = true →
      check.LooksForOptOut config skipped owner node →
        (HidesSkip node.annotations ↔ HidesSkip annotations)) :
    List.Forall₂ AgreesUpToOrder
      ((reportsAt config skipped unitName owner node).filter (keep ·.ruleId))
      ((reportsAt config skipped unitName later (node.withAnnotations annotations)).filter
        (keep ·.ruleId)) := by
  have violated : (violations config skipped later.name (node.withAnnotations annotations)).filter
        (keep ·.id) = (violations config skipped owner.name node).filter (keep ·.id) := by
    simp only [violations, List.filter_filter]
    apply List.filter_congr
    intro check _
    cases kept : keep check.id with
    | false => rfl
    | true =>
        rw [Bool.true_and, Bool.true_and, decide_eq_decide]
        exact isViolated_withAnnotations same named (seen check kept)
  rw [reportsAt, reportsAt, reported_checkNode, reported_checkNode, nodeReports, nodeReports,
    List.filter_map, List.filter_map, List.forall₂_map_left_iff, List.forall₂_map_right_iff, named]
  rw [named] at violated
  change List.Forall₂ _ ((violations config skipped owner.name node).filter (keep ·.id))
    ((violations config skipped owner.name (node.withAnnotations annotations)).filter (keep ·.id))
  rw [violated, List.forall₂_same]
  exact fun check _ => report_withAnnotations same unitName owner.name check

end

/-- The order of annotations counts only where a skip mode can be hidden. A rule against
opting out that looks at a node reports it exactly if some annotation opts out, unless those
that do stand behind a `CompileStatic` which does not. So it gives the same answer in all
orders exactly if no order can hide a skip mode. All other rules report the same in any
order, but for the order of what they reject, and so do all rules where the same is hidden
from those that look for it. -/
theorem annotation_order_counts_for_hidden_skip (config : Configuration) (skipped : List String)
    (unitName : String) (owner : ClassDecl) (node : Node) :
    (∀ check : Check, check.LooksForOptOut config skipped owner node →
      (IsReportedBy config skipped unitName owner node check.id ↔
        OptsOutAnywhere node.annotations ∧ ¬HidesSkip node.annotations) ∧
      ((∀ annotations later, node.annotations.Perm annotations → later.name = owner.name →
          (IsReportedBy config skipped unitName later (node.withAnnotations annotations) check.id ↔
            IsReportedBy config skipped unitName owner node check.id)) ↔
        ¬CanHideSkip node.annotations)) ∧
    ∀ annotations later, node.annotations.Perm annotations → later.name = owner.name →
      let before := reportsAt config skipped unitName owner node
      let after := reportsAt config skipped unitName later (node.withAnnotations annotations)
      List.Forall₂ AgreesUpToOrder (before.filter (·.ruleId ∉ modeIds))
          (after.filter (·.ruleId ∉ modeIds)) ∧
        ((∀ check : Check, check.LooksForOptOut config skipped owner node →
            (HidesSkip node.annotations ↔ HidesSkip annotations)) →
          List.Forall₂ AgreesUpToOrder before after) := by
  constructor
  · exact fun check looks => ⟨looks.isReportedBy_iff, looks.steady_iff⟩
  · intro annotations later same named before after
    constructor
    · refine reportsAt_withAnnotations same unitName named (fun id => id ∉ modeIds) ?_
      intro check other looks
      exact absurd looks.isMode (of_decide_eq_true other)
    · intro seen
      have whole := reportsAt_withAnnotations same unitName named (fun _ => true)
        fun check _ looks => seen check looks
      rwa [List.filter_true, List.filter_true] at whole

/-- A class that asks for dynamic compilation is reported in any order of its annotations,
and the extensions that it may not ask for are reported as well. -/
theorem annotation_order_counts_for_hidden_skip_at_dynamic_class :
    let config : Configuration :=
      { disableDynamicCompile := true, limitExtensions := true, allowedExtensions := ["a"] }
    let asking (extensions : List String) : Annotation :=
      { name := compileStatic, members := [(extensionsMember, .list extensions)] }
    let decl : ClassDecl :=
      { name := "p.A", annotations := [asking ["b"], { name := compileDynamic }, asking ["c"]] }
    let reordered := decl.annotations.reverse
    Check.classMode.LooksForOptOut config [] decl (.ofClass decl) ∧
      (∀ annotations, decl.annotations.Perm annotations →
        IsReportedBy config [] "" decl (.ofClass { decl with annotations }) Check.classMode.id) ∧
      List.Forall₂ AgreesUpToOrder (reportsAt config [] "" decl (.ofClass decl))
        (reportsAt config [] "" { decl with annotations := reordered }
          (.ofClass { decl with annotations := reordered })) := by
  intro config asking decl reordered
  have looks : Check.classMode.LooksForOptOut config [] decl (.ofClass decl) :=
    ⟨by decide, rfl, rfl, by decide, by decide⟩
  have dynamic : AsksDynamic decl.annotations := ⟨{ name := compileDynamic }, by decide, rfl⟩
  have plain : ∀ annotations, decl.annotations.Perm annotations → ¬HidesSkip annotations :=
    fun annotations same hides => hides.1 ((asksDynamic_perm same).mp dynamic)
  have reversed : decl.annotations.Perm reordered := (List.reverse_perm decl.annotations).symm
  obtain ⟨rules, orders⟩ :=
    annotation_order_counts_for_hidden_skip config [] "" decl (.ofClass decl)
  obtain ⟨reported, steady⟩ := rules .classMode looks
  refine ⟨looks, ?_, ?_⟩
  · intro annotations same
    refine (steady.mpr (fun mixed => mixed.1 dynamic) annotations decl same rfl).mpr ?_
    exact reported.mpr ⟨.inl dynamic, plain _ (.refl _)⟩
  · refine (orders reordered { decl with annotations := reordered } reversed rfl).2 ?_
    intro check _
    exact iff_of_false (plain _ (.refl _)) (plain _ reversed)

/-- A class escapes the rule against opting out by the order of its annotations: its skip
mode stands behind a `CompileStatic` without one. -/
theorem skip_behind_marker_escapes :
    let config : Configuration := { disableDynamicCompile := true }
    let plain : Annotation := { name := compileStatic }
    let skipping : Annotation :=
      { name := compileStatic, members := [(modeMember, .single skipMode)] }
    let decl : ClassDecl := { name := "a.Foo", annotations := [plain, skipping] }
    let other : ClassDecl := { decl with annotations := [skipping, plain] }
    Check.classMode.LooksForOptOut config [] decl (.ofClass decl) ∧
      OptsOutAnywhere decl.annotations ∧ decl.annotations.Perm other.annotations ∧
      ¬IsReportedBy config [] "" decl (.ofClass decl) "DYNAMIC_COMPILE_CLASS" ∧
      IsReportedBy config [] "" other (.ofClass other) "DYNAMIC_COMPILE_CLASS" := by
  intro config plain skipping decl other
  refine ⟨⟨by decide, rfl, rfl, by decide, by decide⟩, ?_, .swap skipping plain [], ?_, ?_⟩
  · exact .inr ⟨skipping, by decide, rfl, skipMode, rfl, .inl rfl⟩
  · unfold IsReportedBy
    decide
  · unfold IsReportedBy
    decide

end Policy

end CompilePolicy

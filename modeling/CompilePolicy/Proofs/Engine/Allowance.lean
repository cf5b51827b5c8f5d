import CompilePolicy.Proofs.Engine.Rerun

/-!
# More allowed extensions

The allowed extensions count in two places: an engine lists them in the markers that it
attaches, and the rules against other extensions reject what is not among them. With more
extensions allowed, a rule rejects at a node what it rejected there before, less what is
allowed now. A marker is not rejected by the configuration that it was written for, and a
class on which something is reported has chosen its mode, so that it gets no marker at all.
What is reported with more extensions allowed is therefore read off what was reported
before, diagnostic by diagnostic.
-/

namespace CompilePolicy

open Document

/-- The configuration with other extensions allowed. -/
def Configuration.allowing (config : Configuration) (extensions : List String) : Configuration :=
  { config with allowedExtensions := extensions }

@[simp]
theorem Configuration.allowedExtensions_allowing (config : Configuration)
    (extensions : List String) : (config.allowing extensions).allowedExtensions = extensions :=
  rfl

namespace Policy

/-! ## Reports and markers -/

theorem choosesMode_of_rejected {config : Configuration} {decl : ClassDecl}
    (some : rejected config decl.annotations ≠ []) : ChoosesMode decl := by
  obtain ⟨extension, refused⟩ := List.exists_mem_of_ne_nil _ some
  obtain ⟨note, isStatic, -⟩ := List.mem_flatMap.mp (List.mem_filter.mp refused).1
  obtain ⟨listed, isStatic⟩ := List.mem_filter.mp isStatic
  exact ⟨note, listed, .inl (of_decide_eq_true isStatic)⟩

section

variable {config : Configuration} {skipped : List String}

/-- A class that violates a check has chosen its mode. -/
theorem choosesMode_of_isViolated {className : String} {decl : ClassDecl} {check : Check}
    (violated : check.IsViolated config skipped className (.ofClass decl)) :
    ChoosesMode decl := by
  cases check with
  | classMode => exact choosesMode_of_optsOut violated.fails.2
  | classExtensions => exact choosesMode_of_rejected violated.fails
  | fieldType | methodType | methodMode | methodExtensions | parameterType =>
      exact absurd violated.fits (by simp [Check.scope, Node.scope])

/-- A diagnostic in a class is the report of a check that is violated at one of its nodes. -/
theorem exists_report_of_mem {unitName : String} {decl : ClassDecl} {diagnostic : Diagnostic}
    (listed : diagnostic ∈ classReports config skipped unitName decl) :
    ∃ node ∈ decl.nodes, ∃ check : Check, check.IsViolated config skipped decl.name node ∧
      check.report config unitName decl.name node = diagnostic := by
  rw [classReports_eq] at listed
  obtain ⟨node, isNode, listed⟩ := List.mem_flatMap.mp listed
  obtain ⟨check, violated, same⟩ := List.mem_map.mp listed
  exact ⟨node, isNode, check, mem_violations.mp violated, same⟩

/-- What is reported in a class stands when the class is marked. -/
theorem whenMarked_of_mem {unitName : String} {decl : ClassDecl} {diagnostic : Diagnostic}
    (listed : diagnostic ∈ classReports config skipped unitName decl) :
    whenMarked config diagnostic = diagnostic := by
  obtain ⟨node, isNode, check, violated, rfl⟩ := exists_report_of_mem listed
  have nodes : decl.nodes = .ofClass decl :: decl.nodes.tail := rfl
  rw [nodes] at isNode
  rcases List.mem_cons.mp isNode with rfl | member
  · have chosen := choosesMode_of_isViolated violated
    rw [whenMarked_report_class, marked_of_choosesMode config chosen]
  · exact whenMarked_report_member config unitName member decl.name check

theorem map_whenMarked_classReports (unitName : String) (decl : ClassDecl) :
    (classReports config skipped unitName decl).map (whenMarked config) =
      classReports config skipped unitName decl :=
  (List.map_congr_left fun _ listed => whenMarked_of_mem listed).trans (List.map_id _)

end

/-- The diagnostics of a run are those that the rules give on the classes. -/
theorem diagnostics_total_classes (config : Configuration) (skipped : List String)
    (units : List CompilationUnit) :
    (total config skipped units).diagnostics =
      (walked config units).flatMap fun unit =>
        (unit.classes.filter (¬IsExempt config ·)).flatMap
          (classReports config skipped unit.name) := by
  simp only [diagnostics_total, map_whenMarked_classReports]

/-- The marker lists all extensions that are allowed. -/
theorem items_markerFor (config : Configuration) :
    ((markerFor config).member extensionsMember).items = config.allowedExtensions := by
  unfold markerFor
  by_cases none : config.allowedExtensions = []
  · simp [none, Annotation.member, Argument.items]
  · simp [none, Annotation.member, Argument.items]

end Policy

/-! ## What is left of a report -/

/-- The rules against extensions that are not allowed. -/
def extensionLimitIds : List String :=
  ["EXTENSION_LIMIT_CLASS", "EXTENSION_LIMIT_METHOD"]

namespace Diagnostic

/-- The extensions that a diagnostic gives as rejected. -/
def rejected (diagnostic : Diagnostic) : List String :=
  (((diagnostic.metadata.lookup "rejected").bind (·.items?)).getD []).filterMap (·.string?)

/-- What is left of a diagnostic under a configuration that allows more extensions. One
that rejects extensions goes if all of them are allowed now; else it rejects the others, and
says what is allowed now. Any other diagnostic stays. -/
def narrowed (config : Configuration) (diagnostic : Diagnostic) : Option Diagnostic :=
  if diagnostic.ruleId ∈ extensionLimitIds then
    let left := diagnostic.rejected.filter (· ∉ config.allowedExtensions)
    if left = [] then none
    else
      some
        { diagnostic with
          message := "Compile Static extensions are limited to: " ++ config.extensionsText
          metadata := [("rejected", .strings left)] }
  else some diagnostic

theorem rejected_of_metadata {diagnostic : Diagnostic} {texts : List String}
    (attached : diagnostic.metadata = [("rejected", .strings texts)]) :
    diagnostic.rejected = texts := by
  simp [rejected, attached, Value.strings, Value.items?, Value.untie, List.filterMap_map,
    Value.string?]

variable {config : Configuration} {diagnostic other : Diagnostic}

theorem narrowed_of_limited {texts : List String} (limited : diagnostic.ruleId ∈ extensionLimitIds)
    (attached : diagnostic.metadata = [("rejected", .strings texts)]) :
    diagnostic.narrowed config =
      if texts.filter (· ∉ config.allowedExtensions) = [] then none
      else
        some
          { diagnostic with
            message := "Compile Static extensions are limited to: " ++ config.extensionsText
            metadata :=
              [("rejected", .strings (texts.filter (· ∉ config.allowedExtensions)))] } := by
  rw [narrowed, if_pos limited, rejected_of_metadata attached]

theorem narrowed_of_other (unlimited : diagnostic.ruleId ∉ extensionLimitIds) :
    diagnostic.narrowed config = some diagnostic :=
  if_neg unlimited

/-- What is left of a diagnostic is by the same rule and about the same node. -/
theorem same_of_narrowed (left : diagnostic.narrowed config = some other) :
    other.ruleId = diagnostic.ruleId ∧ other.subject = diagnostic.subject := by
  unfold narrowed at left
  split at left
  · dsimp only at left
    split at left
    · cases left
    · cases left
      exact ⟨rfl, rfl⟩
  · cases left
    exact ⟨rfl, rfl⟩

end Diagnostic

section

variable (config : Configuration)

/-- What stays of diagnostics is by the same rules and about the same nodes, in order. -/
theorem sublist_filterMap_narrowed (diagnostics : List Diagnostic) :
    ((diagnostics.filterMap (·.narrowed config)).map fun other =>
        (other.ruleId, other.subject)).Sublist
      (diagnostics.map fun other => (other.ruleId, other.subject)) := by
  induction diagnostics with
  | nil => exact .slnil
  | cons diagnostic rest ih =>
      cases left : diagnostic.narrowed config with
      | none =>
          rw [List.filterMap_cons_none left]
          exact .cons _ ih
      | some other =>
          obtain ⟨rule, subject⟩ := Diagnostic.same_of_narrowed left
          rw [List.filterMap_cons_some left, List.map_cons, List.map_cons, rule, subject]
          exact .cons_cons _ ih

/-- The diagnostics of the other rules all stay. -/
theorem filter_filterMap_narrowed (diagnostics : List Diagnostic) :
    (diagnostics.filterMap (·.narrowed config)).filter (·.ruleId ∉ extensionLimitIds) =
      diagnostics.filter (·.ruleId ∉ extensionLimitIds) := by
  induction diagnostics with
  | nil => rfl
  | cons diagnostic rest ih =>
      by_cases limited : diagnostic.ruleId ∈ extensionLimitIds
      · cases left : diagnostic.narrowed config with
        | none => simpa [List.filterMap_cons_none left, limited] using ih
        | some other =>
            have rule := (Diagnostic.same_of_narrowed left).1
            simpa [List.filterMap_cons_some left, rule, limited] using ih
      · have stays : diagnostic.narrowed config = some diagnostic :=
          Diagnostic.narrowed_of_other limited
        simpa [List.filterMap_cons_some stays, limited] using ih

end

namespace Policy

/-- A diagnostic against extensions gives those that it rejects, and nothing else. -/
theorem metadata_of_limited {config : Configuration} {skipped : List String}
    {units : List CompilationUnit} {diagnostic : Diagnostic}
    (listed : diagnostic ∈ (total config skipped units).diagnostics)
    (limited : diagnostic.ruleId ∈ extensionLimitIds) :
    diagnostic.metadata = [("rejected", .strings diagnostic.rejected)] := by
  rw [diagnostics_total_classes] at listed
  obtain ⟨unit, -, listed⟩ := List.mem_flatMap.mp listed
  obtain ⟨decl, -, listed⟩ := List.mem_flatMap.mp listed
  obtain ⟨node, -, check, -, rfl⟩ := exists_report_of_mem listed
  cases check with
  | classExtensions | methodExtensions =>
      rw [Diagnostic.rejected_of_metadata rfl]
      rfl
  | classMode | fieldType | methodType | methodMode | parameterType =>
      exact absurd limited (by simp [Check.report, Check.id, extensionLimitIds])

/-! ## More extensions are allowed -/

section

variable {config : Configuration} {longer : List String}

theorem rejected_allowing (covers : config.allowedExtensions ⊆ longer)
    (annotations : List Annotation) :
    rejected (config.allowing longer) annotations =
      (rejected config annotations).filter (· ∉ longer) := by
  rw [rejected, rejected, List.filter_filter]
  apply List.filter_congr
  intro extension _
  by_cases allowed : extension ∈ longer
  · simp [allowed]
  · simp [allowed, mt (@covers extension) allowed]

/-- A check that fails with more extensions allowed failed before. -/
theorem Check.Fails.of_allowing (covers : config.allowedExtensions ⊆ longer) {className : String}
    {node : Node} {check : Check} (fails : check.Fails (config.allowing longer) className node) :
    check.Fails config className node := by
  have less : rejected (config.allowing longer) node.annotations ≠ [] →
      rejected config node.annotations ≠ [] := by
    intro some none
    rw [rejected_allowing covers, none] at some
    exact some rfl
  cases check with
  | classExtensions | methodExtensions => exact less fails
  | classMode | fieldType | methodType | methodMode | parameterType => exact fails

/-- The report of a check that fails is what was reported before, narrowed. -/
theorem narrowed_report (covers : config.allowedExtensions ⊆ longer)
    (unitName className : String) (node : Node) (check : Check)
    (fails : check.Fails config className node) :
    (check.report config unitName className node).narrowed (config.allowing longer) =
      if check.Fails (config.allowing longer) className node then
        some (check.report (config.allowing longer) unitName className node)
      else none := by
  have less := rejected_allowing covers node.annotations
  -- Only the two rules against extensions see the setting.
  cases check with
  | classExtensions | methodExtensions =>
      rw [Diagnostic.narrowed_of_limited (by simp [Check.report, Check.id, extensionLimitIds]) rfl,
        Configuration.allowedExtensions_allowing, ← less]
      exact (ite_not _ _ _).symm
  | classMode | fieldType | methodType | methodMode | parameterType =>
      rw [Diagnostic.narrowed_of_other (by simp [Check.report, Check.id, extensionLimitIds])]
      exact (if_pos fails).symm

/-- The reports at a node are those that were made there before, narrowed. -/
theorem nodeReports_allowing (covers : config.allowedExtensions ⊆ longer) (skipped : List String)
    (unitName className : String) (node : Node) :
    nodeReports (config.allowing longer) skipped unitName className node =
      (nodeReports config skipped unitName className node).filterMap
        (·.narrowed (config.allowing longer)) := by
  rw [nodeReports, nodeReports, violations, violations, List.filterMap_map,
    List.filterMap_filter, ← List.filterMap_eq_map, List.filterMap_filter]
  congr 1
  funext check
  by_cases before : check.IsViolated config skipped className node
  · have now : check.IsViolated (config.allowing longer) skipped className node ↔
        check.Fails (config.allowing longer) className node :=
      ⟨fun violated => violated.fails, fun fails => ⟨before.fits, before.asked, before.kept, fails⟩⟩
    simp [before, now, narrowed_report covers _ _ _ _ before.fails]
  · have now : ¬check.IsViolated (config.allowing longer) skipped className node := fun violated =>
      before ⟨violated.fits, violated.asked, violated.kept, violated.fails.of_allowing covers⟩
    simp [before, now]

theorem diagnostics_total_allowing (covers : config.allowedExtensions ⊆ longer)
    (skipped : List String) (units : List CompilationUnit) :
    (total (config.allowing longer) skipped units).diagnostics =
      (total config skipped units).diagnostics.filterMap (·.narrowed (config.allowing longer)) := by
  have classwise : ∀ unitName decl,
      classReports (config.allowing longer) skipped unitName decl =
        (classReports config skipped unitName decl).filterMap
          (·.narrowed (config.allowing longer)) := by
    intro unitName decl
    rw [classReports_eq, classReports_eq, List.filterMap_flatMap]
    exact List.flatMap_congr fun node _ => nodeReports_allowing covers skipped unitName _ node
  rw [diagnostics_total_classes, diagnostics_total_classes, List.filterMap_flatMap]
  simp only [List.filterMap_flatMap, ← classwise]
  rfl

end

/-- The classes that a call marks are those that it reaches and that have chosen no mode. -/
theorem treeAfter_eq_attachMarker (config : Configuration) (units : List CompilationUnit)
    (call : Call) :
    call.treeAfter config units =
      revised (fun unitPlace unit declPlace decl =>
        if call.Reaches config unitPlace unit declPlace decl ∧ ¬ChoosesMode decl then
          attachMarker config decl
        else decl) units := by
  rw [Call.treeAfter]
  congr 1
  funext unitPlace unit declPlace decl
  by_cases chosen : ChoosesMode decl
  · simp [chosen, marked_of_choosesMode]
  · have attached : marked config decl = attachMarker config decl := by
      rw [← markedClass_eq, markedClass, if_neg (mt choosesMode_iff.mp chosen)]
    simp [chosen, attached]

end Policy

/-! ## Runs with more extensions allowed -/

/-- An engine runs under a configuration, and another one on the same tree under one that
differs from it in more allowed extensions only. The diagnostics of the second are those of
the first, each narrowed to what is still rejected. So the second finds no violation of a
rule at a node where the first does not, and the other rules report the same. Both mark the
same classes. The marker lists all extensions that are allowed, and the rules say of a class
with the marker what they say of it without. -/
theorem more_allowed_extensions_reject_less (session : Session) (config : Configuration)
    {longer : List String} (covers : config.allowedExtensions ⊆ longer) (skipped : List String)
    (places : List Nat) :
    let relaxed := config.allowing longer
    let begun (config : Configuration) : Session :=
      { session with registry := .builtIn, engine := { configuration := some config, skipped } }
    let reports (config : Configuration) (unitName : String) (decl : ClassDecl) :=
      reported (checkClass config (Registry.builtIn.activeRules config skipped) unitName decl)
    let receives (unitPlace : Nat) (unit : CompilationUnit) (declPlace : Nat) (decl : ClassDecl) :=
      (Call.executeMany places).Reaches config unitPlace unit declPlace decl ∧
        ¬Policy.ChoosesMode decl
    ∃ strict afterStrict lenient afterLenient,
      (begun config).run (Session.executeMany places) = (.ok strict, afterStrict) ∧
      (begun relaxed).run (Session.executeMany places) = (.ok lenient, afterLenient) ∧
      (strict.diagnostics =
          (Policy.walked config (places.map (session.units.getD · {}))).flatMap (fun unit =>
            (unit.classes.filter (¬Policy.IsExempt config ·)).flatMap (reports config unit.name)) ∧
        lenient.diagnostics = strict.diagnostics.filterMap (·.narrowed relaxed)) ∧
      (∀ diagnostic ∈ strict.diagnostics, diagnostic.ruleId ∈ extensionLimitIds →
        diagnostic.metadata = [("rejected", .strings diagnostic.rejected)]) ∧
      (lenient.diagnostics.map fun diagnostic => (diagnostic.ruleId, diagnostic.subject)).Sublist
        (strict.diagnostics.map fun diagnostic => (diagnostic.ruleId, diagnostic.subject)) ∧
      lenient.diagnostics.filter (·.ruleId ∉ extensionLimitIds) =
        strict.diagnostics.filter (·.ruleId ∉ extensionLimitIds) ∧
      lenient.classesAnnotated = strict.classesAnnotated ∧
      afterStrict.units =
        revised (fun unitPlace unit declPlace decl =>
          if receives unitPlace unit declPlace decl then attachMarker config decl else decl)
          session.units ∧
      afterLenient.units =
        revised (fun unitPlace unit declPlace decl =>
          if receives unitPlace unit declPlace decl then attachMarker relaxed decl else decl)
          session.units ∧
      ∀ own ∈ [config, relaxed],
        ((markerFor own).member extensionsMember).items = own.allowedExtensions ∧
        ∀ unitName decl,
          reports own unitName (markedClass own decl) = reports own unitName decl := by
  intro relaxed begun reports receives
  obtain ⟨strict, afterStrict, ranStrict, readStrict, markedStrict, treeStrict⟩ :=
    session.run_given config skipped places
  obtain ⟨lenient, afterLenient, ranLenient, readLenient, markedLenient, treeLenient⟩ :=
    session.run_given relaxed skipped places
  have found := readStrict Outcome.diagnostics fun _ => rfl
  have left : lenient.diagnostics = strict.diagnostics.filterMap (·.narrowed relaxed) := by
    rw [readLenient Outcome.diagnostics fun _ => rfl, Policy.diagnostics_total_allowing covers,
      found]
  refine ⟨strict, afterStrict, lenient, afterLenient, ranStrict, ranLenient, ⟨?_, left⟩, ?_, ?_,
    ?_, ?_, ?_, ?_, ?_⟩
  · rw [found, Policy.diagnostics_total_classes]
    simp only [reports, Policy.reported_checkClass]
  · rw [found]
    exact fun diagnostic listed => Policy.metadata_of_limited listed
  · rw [left]
    exact sublist_filterMap_narrowed relaxed strict.diagnostics
  · rw [left]
    exact filter_filterMap_narrowed relaxed strict.diagnostics
  · rw [markedStrict, markedLenient]
    rfl
  · rw [treeStrict, Policy.treeAfter_eq_attachMarker]
  · rw [treeLenient, Policy.treeAfter_eq_attachMarker]
    rfl
  · intro own _
    refine ⟨Policy.items_markerFor own, ?_⟩
    intro unitName decl
    simp only [reports, Policy.reported_checkClass]
    rw [Policy.markedClass_eq, Policy.classReports_marked, Policy.map_whenMarked_classReports]

/-- With one more extension allowed, a class is reported for fewer of its extensions, and its
method is not reported any more. -/
theorem more_allowed_extensions_reject_less_at_a_class :
    let config : Configuration :=
      { limitExtensions := true, allowedExtensions := ["a"], dynamicTypingAllowed := false }
    let longer := ["b", "a"]
    let asking (extensions : List String) : Annotation :=
      { name := compileStatic, members := [(extensionsMember, .list extensions)] }
    let begun (config : Configuration) : Session :=
      { units := [{ name := "A.groovy", targetDirectory := some "out",
                    classes :=
                      [{ name := "a.Foo"
                         annotations := [asking ["a", "b", "c"], asking ["c", "b"]]
                         fields := [{ name := "x", isDynamic := true }]
                         methods := [{ name := "m", annotations := [asking ["b"]] }] },
                       { name := "a.Bar" }] }]
        registry := .builtIn, engine := { configuration := some config } }
    config.allowedExtensions ⊆ longer ∧
      ∃ strict afterStrict lenient afterLenient,
        (begun config).run (Session.executeMany [0, 0]) = (.ok strict, afterStrict) ∧
        (begun (config.allowing longer)).run (Session.executeMany [0, 0]) =
          (.ok lenient, afterLenient) ∧
        (strict.diagnostics.map fun diagnostic => (diagnostic.ruleId, diagnostic.rejected)) =
          [("EXTENSION_LIMIT_CLASS", ["b", "c", "c", "b"]), ("DEF_FIELD", []),
           ("EXTENSION_LIMIT_METHOD", ["b"]),
           ("EXTENSION_LIMIT_CLASS", ["b", "c", "c", "b"]), ("DEF_FIELD", []),
           ("EXTENSION_LIMIT_METHOD", ["b"])] ∧
        (lenient.diagnostics.map fun diagnostic => (diagnostic.ruleId, diagnostic.rejected)) =
          [("EXTENSION_LIMIT_CLASS", ["c", "c"]), ("DEF_FIELD", []),
           ("EXTENSION_LIMIT_CLASS", ["c", "c"]), ("DEF_FIELD", [])] ∧
        (afterStrict.classAt 0 1).annotations = [asking ["a"]] ∧
        (afterLenient.classAt 0 1).annotations = [asking ["b", "a"]] := by
  intro config longer asking begun
  have covers : config.allowedExtensions ⊆ longer := by simp [config, longer]
  obtain ⟨strict, afterStrict, lenient, afterLenient, ranStrict, ranLenient, ⟨found, left⟩, -, -, -,
    -, treeStrict, treeLenient, -⟩ :=
      more_allowed_extensions_reject_less { units := (begun config).units } config covers [] [0, 0]
  refine ⟨covers, strict, afterStrict, lenient, afterLenient, ranStrict, ranLenient, ?_, ?_, ?_, ?_⟩
  · rw [found]
    decide
  · rw [left, found]
    decide
  · rw [Session.classAt_of_revised treeStrict rfl rfl]
    decide
  · rw [Session.classAt_of_revised treeLenient rfl rfl]
    decide

end CompilePolicy

import CompilePolicy.Proofs.Engine.Rerun

/-!
# Longer whitelists

The whitelist counts in two places: a walk asks it of each class, and the rules against
opting out ask it again. A longer whitelist exempts more classes. A class that it does not
exempt is on neither whitelist, so the rules find the same there. A run under the longer
whitelist therefore reports of the classes that it still checks what a run under the shorter
one reports of them, marks them in the same way, and leaves the other classes as they were.
-/

namespace CompilePolicy

/-- The configuration with another whitelist. -/
def Configuration.whitelisting (config : Configuration) (whitelist : List String) :
    Configuration :=
  { config with classWhitelist := whitelist }

namespace Policy

/-! ## Classes with their reports -/

section

variable (config : Configuration) (skipped : List String) (units : List CompilationUnit)

/-- The classes that are checked, each with what is reported in it. -/
def blocks : List (ClassDecl × List Diagnostic) :=
  (walked config units).flatMap fun unit =>
    (unit.classes.filter (¬IsExempt config ·)).map fun decl =>
      (decl, classReports config skipped unit.name (marked config decl))

theorem map_fst_blocks : (blocks config skipped units).map (·.1) = checked config units := by
  simp [blocks, checked, List.map_flatMap, Function.comp_def]

/-- What is reported in a run is reported in the classes that it checks, one after another. -/
theorem diagnostics_eq_blocks :
    (total config skipped units).diagnostics = (blocks config skipped units).flatMap (·.2) := by
  rw [blocks, List.flatMap_assoc]
  apply list_total config skipped units Outcome.diagnostics (fun _ _ => rfl) rfl
  intro unit
  unfold outcome
  split
  · rfl
  · rw [List.flatMap_map]

theorem classesChecked_eq_blocks :
    (total config skipped units).classesChecked =
      (blocks config skipped units).map (·.1.name) := by
  rw [classesChecked_total, ← map_fst_blocks config skipped, List.map_map]
  rfl

end

/-! ## More classes are exempt -/

section

variable {config : Configuration} {longer : List String}

theorem IsWhitelisted.mono (covers : config.classWhitelist ⊆ longer) {className : String}
    (listed : IsWhitelisted config className) :
    IsWhitelisted (config.whitelisting longer) className := by
  obtain ⟨entry, known, stands⟩ := listed
  exact ⟨entry, covers known, stands⟩

theorem IsExempt.mono (covers : config.classWhitelist ⊆ longer) {decl : ClassDecl}
    (exempt : IsExempt config decl) : IsExempt (config.whitelisting longer) decl :=
  exempt.imp (.mono covers) id

/-- A check does not see the whitelist in a class that is on neither. -/
theorem fails_whitelisting (covers : config.classWhitelist ⊆ longer) {className : String}
    (free : ¬IsWhitelisted (config.whitelisting longer) className) (node : Node) (check : Check) :
    check.Fails (config.whitelisting longer) className node ↔
      check.Fails config className node := by
  have freeBefore : ¬IsWhitelisted config className := mt (.mono covers) free
  have out : (¬IsWhitelisted (config.whitelisting longer) className ∧
      OptsOut node.annotations) ↔ ¬IsWhitelisted config className ∧ OptsOut node.annotations := by
    simp [free, freeBefore]
  cases check with
  | classMode | methodMode => exact out
  | classExtensions | methodExtensions | fieldType | methodType | parameterType => rfl

theorem report_whitelisting (unitName className : String) (node : Node) (check : Check) :
    check.report (config.whitelisting longer) unitName className node =
      check.report config unitName className node := by
  cases check <;> rfl

/-- A class that is still checked has the same reports. -/
theorem classReports_whitelisting (covers : config.classWhitelist ⊆ longer)
    (skipped : List String) (unitName : String) {decl : ClassDecl}
    (free : ¬IsExempt (config.whitelisting longer) decl) :
    classReports (config.whitelisting longer) skipped unitName decl =
      classReports config skipped unitName decl := by
  rw [classReports_eq, classReports_eq]
  congr 1
  funext node
  rw [nodeReports, nodeReports, violations, violations]
  simp only [report_whitelisting]
  congr 1
  apply List.filter_congr
  intro check _
  rw [decide_eq_decide, Check.isViolated_iff, Check.isViolated_iff,
    fails_whitelisting covers fun listed => free (.inl listed)]
  rfl

/-- What is left of the classes that are checked are those that are not exempt now. -/
theorem blocks_whitelisting (covers : config.classWhitelist ⊆ longer) (skipped : List String)
    (units : List CompilationUnit) :
    blocks (config.whitelisting longer) skipped units =
      (blocks config skipped units).filter (¬IsExempt (config.whitelisting longer) ·.1) := by
  rw [blocks, blocks, List.filter_flatMap]
  congr 1
  funext unit
  rw [List.filter_map, List.filter_filter]
  have left : unit.classes.filter (¬IsExempt (config.whitelisting longer) ·) =
      unit.classes.filter fun decl =>
        decide (¬IsExempt (config.whitelisting longer) decl) &&
          decide (¬IsExempt config decl) := by
    apply List.filter_congr
    intro decl _
    by_cases exempt : IsExempt config decl
    · simp [exempt, exempt.mono covers]
    · simp [exempt]
  rw [left]
  apply List.map_congr_left
  intro decl listed
  have free := (List.mem_filter.mp (left ▸ listed)).2
  have freeMarked : ¬IsExempt (config.whitelisting longer) (marked config decl) := by
    rw [isExempt_marked]
    exact of_decide_eq_true free
  have same := classReports_whitelisting covers skipped unit.name freeMarked
  exact congrArg (Prod.mk decl) same

theorem checked_whitelisting (covers : config.classWhitelist ⊆ longer)
    (units : List CompilationUnit) :
    checked (config.whitelisting longer) units =
      (checked config units).filter (¬IsExempt (config.whitelisting longer) ·) := by
  rw [← map_fst_blocks _ [], blocks_whitelisting covers, ← map_fst_blocks config [],
    List.filter_map]
  rfl

/-- The classes that were exempt are among those that are exempt now. -/
theorem exempt_sublist_whitelisting (covers : config.classWhitelist ⊆ longer)
    (units : List CompilationUnit) :
    (exempt config units).Sublist (exempt (config.whitelisting longer) units) := by
  have before : exempt config units =
      (exempt (config.whitelisting longer) units).filter (IsExempt config ·) := by
    rw [exempt, exempt, List.filter_flatMap]
    congr 1
    funext unit
    rw [List.filter_filter]
    apply List.filter_congr
    intro decl _
    by_cases exempt : IsExempt config decl
    · simp [exempt, exempt.mono covers]
    · simp [exempt]
  rw [before]
  exact List.filter_sublist

end

end Policy

/-! ## Runs under a longer whitelist -/

/-- An engine runs under a configuration, and another one on the same tree under one that
differs from it in a longer whitelist only. What is exempt for the first is exempt for the
second. Of the classes that the first checks, the second checks those that are not exempt
for it, and reports the same in them; of the classes that the first marks, when it first
comes to their units, it marks those that are not exempt for it. In the end a class that is
exempt for the second is as it was before both runs, and any other class is as the first
leaves it. -/
theorem longer_whitelist_exempts_more (session : Session) (config : Configuration)
    {longer : List String} (covers : config.classWhitelist ⊆ longer) (skipped : List String)
    (places : List Nat) :
    let relaxed := config.whitelisting longer
    let begun (config : Configuration) : Session :=
      { session with registry := .builtIn, engine := { configuration := some config, skipped } }
    let blocks := Policy.blocks config skipped (places.map (session.units.getD · {}))
    let kept := blocks.filter (¬Policy.IsExempt relaxed ·.1)
    let chosen := (Policy.checked config (places.eraseDups.map (session.units.getD · {}))).filter
      (¬Policy.ChoosesMode ·)
    ∃ strict afterStrict lenient afterLenient,
      (begun config).run (Session.executeMany places) = (.ok strict, afterStrict) ∧
      (begun relaxed).run (Session.executeMany places) = (.ok lenient, afterLenient) ∧
      (strict.diagnostics = blocks.flatMap (·.2) ∧ lenient.diagnostics = kept.flatMap (·.2)) ∧
      (strict.classesChecked = blocks.map (·.1.name) ∧
        lenient.classesChecked = kept.map (·.1.name)) ∧
      (strict.classesAnnotated = chosen.map (·.name) ∧
        lenient.classesAnnotated = (chosen.filter (¬Policy.IsExempt relaxed ·)).map (·.name)) ∧
      (∀ decl, Policy.IsExempt config decl → Policy.IsExempt relaxed decl) ∧
      strict.classesExempt.Sublist lenient.classesExempt ∧
      afterLenient.units =
        revised (fun unitPlace _ declPlace decl =>
          if Policy.IsExempt relaxed decl then decl
          else afterStrict.classAt unitPlace declPlace) session.units := by
  intro relaxed begun blocks kept chosen
  obtain ⟨strict, afterStrict, ranStrict, readStrict, markedStrict, treeStrict⟩ :=
    session.run_given config skipped places
  obtain ⟨lenient, afterLenient, ranLenient, readLenient, markedLenient, treeLenient⟩ :=
    session.run_given relaxed skipped places
  refine ⟨strict, afterStrict, lenient, afterLenient, ranStrict, ranLenient, ?_, ?_, ?_,
    fun decl => .mono covers, ?_, ?_⟩
  · have one := readStrict Outcome.diagnostics fun _ => rfl
    have other := readLenient Outcome.diagnostics fun _ => rfl
    rw [Policy.diagnostics_eq_blocks] at one other
    rw [Policy.blocks_whitelisting covers] at other
    exact ⟨one, other⟩
  · have one := readStrict Outcome.classesChecked fun _ => rfl
    have other := readLenient Outcome.classesChecked fun _ => rfl
    rw [Policy.classesChecked_eq_blocks] at one other
    rw [Policy.blocks_whitelisting covers] at other
    exact ⟨one, other⟩
  · rw [Policy.checked_whitelisting covers, List.filter_comm] at markedLenient
    exact ⟨markedStrict, markedLenient⟩
  · rw [readStrict Outcome.classesExempt fun _ => rfl,
      readLenient Outcome.classesExempt fun _ => rfl, Policy.classesExempt_total,
      Policy.classesExempt_total]
    exact (Policy.exempt_sublist_whitelisting covers _).map _
  · rw [treeLenient, Call.treeAfter]
    apply revised_congr
    intro unitPlace unit there declPlace decl inside
    rw [Session.classAt_of_revised treeStrict there inside]
    by_cases exempt : Policy.IsExempt relaxed decl
    · simp [Call.Reaches, exempt]
    · -- A class that is not exempt now was not exempt before, so both runs come to it.
      have before : ¬Policy.IsExempt config decl := mt (.mono covers) exempt
      have skips : Policy.IsSkipped relaxed unit ↔ Policy.IsSkipped config unit := .rfl
      have marks : Policy.marked relaxed decl = Policy.marked config decl := rfl
      simp only [Call.Reaches, exempt, before, skips, marks, if_false]

/-- A unit is walked twice under a whitelist that exempts one more of its three classes. -/
theorem longer_whitelist_exempts_more_at_three_classes :
    let config : Configuration := { dynamicTypingAllowed := false, classWhitelist := ["Foo"] }
    let longer := ["ar", "Foo", "ar"]
    let decl (name : String) : ClassDecl := { name, fields := [{ name := "x", isDynamic := true }] }
    let begun (config : Configuration) : Session :=
      { units := [{ name := "A.groovy", targetDirectory := some "out",
                    classes := [decl "a.Foo", decl "a.Bar", decl "a.Qux"] }]
        registry := .builtIn, engine := { configuration := some config } }
    config.classWhitelist ⊆ longer ∧
      ∃ strict afterStrict lenient afterLenient,
        (begun config).run (Session.executeMany [0, 0]) = (.ok strict, afterStrict) ∧
        (begun (config.whitelisting longer)).run (Session.executeMany [0, 0]) =
          (.ok lenient, afterLenient) ∧
        (strict.classesChecked = ["a.Bar", "a.Qux", "a.Bar", "a.Qux"] ∧
          lenient.classesChecked = ["a.Qux", "a.Qux"]) ∧
        (strict.classesAnnotated = ["a.Bar", "a.Qux"] ∧ lenient.classesAnnotated = ["a.Qux"]) ∧
        (strict.diagnostics.map (·.owner) = ["a.Bar", "a.Qux", "a.Bar", "a.Qux"] ∧
          lenient.diagnostics.map (·.owner) = ["a.Qux", "a.Qux"]) ∧
        afterLenient.classAt 0 1 = decl "a.Bar" := by
  intro config longer decl begun
  have covers : config.classWhitelist ⊆ longer := by simp [config, longer]
  obtain ⟨strict, afterStrict, lenient, afterLenient, ranStrict, ranLenient, diagnostics,
    isChecked, annotated, -, -, tree⟩ :=
      longer_whitelist_exempts_more { units := (begun config).units } config covers [] [0, 0]
  refine ⟨covers, strict, afterStrict, lenient, afterLenient, ranStrict, ranLenient, ?_, ?_, ?_,
    ?_⟩
  · rw [isChecked.1, isChecked.2]
    decide
  · rw [annotated.1, annotated.2]
    decide
  · rw [diagnostics.1, diagnostics.2]
    decide
  · rw [Session.classAt_of_revised tree rfl rfl]
    exact if_pos (by decide)

end CompilePolicy

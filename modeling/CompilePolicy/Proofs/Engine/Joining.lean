import CompilePolicy.Proofs.Engine.Order

/-!
# Runs put together

Merging outcomes is associative and an empty outcome adds nothing, as long as no rule is
named twice in an outcome. A run merges the outcomes of its walks onto an empty one. So it
does not matter where a run is cut in two: merging the outcomes of both parts gives that of
the whole, where the second part starts from what the first one left.
-/

namespace CompilePolicy

/-- What is added to distinct ids comes after them, once each and where it came first. -/
theorem addMissing_eq_eraseDups {known : List String} (distinct : known.Nodup)
    (added : List String) : addMissing known added = (known ++ added).eraseDups := by
  rw [← addMissing_nil_left, addMissing_append, addMissing_nil_of_nodup distinct]

namespace Outcome

/-! ## Merging outcomes -/

/-- No rule is named twice among those that ran, and none among those that failed. -/
structure NamesOnce (outcome : Outcome) : Prop where
  ran : outcome.rulesRun.Nodup
  failed : outcome.rulesFailed.Nodup

theorem untimed_merge_assoc (first second third : Outcome) :
    ((first.merge second).merge third).untimed = (first.merge (second.merge third)).untimed := by
  simp only [untimed, merge, List.append_assoc, addMissing_addMissing]

theorem untimed_empty_merge {outcome : Outcome} (once : outcome.NamesOnce) :
    (merge {} outcome).untimed = outcome.untimed := by
  simp only [untimed, merge, List.nil_append, addMissing_nil_of_nodup once.ran,
    addMissing_nil_of_nodup once.failed]

theorem untimed_merge_empty (outcome : Outcome) : (outcome.merge {}).untimed = outcome.untimed := by
  simp only [untimed, merge, List.append_nil]
  rfl

theorem NamesOnce.merge {first : Outcome} (once : first.NamesOnce) (second : Outcome) :
    (first.merge second).NamesOnce :=
  ⟨nodup_addMissing once.ran second.rulesRun, nodup_addMissing once.failed second.rulesFailed⟩

/-- An outcome that is merged into itself has its lists twice, but for those of the rules. -/
theorem untimed_merge_self (outcome : Outcome) :
    (outcome.merge outcome).untimed =
      { outcome.untimed with
        diagnostics := outcome.diagnostics ++ outcome.diagnostics
        unitsProcessed := outcome.unitsProcessed ++ outcome.unitsProcessed
        unitsSkipped := outcome.unitsSkipped ++ outcome.unitsSkipped
        classesChecked := outcome.classesChecked ++ outcome.classesChecked
        classesExempt := outcome.classesExempt ++ outcome.classesExempt
        classesAnnotated := outcome.classesAnnotated ++ outcome.classesAnnotated } := by
  simp only [untimed, merge, addMissing_of_forall_mem fun _ listed => listed]

/-- What outcomes are merged to, but for the time, does not depend on their times. -/
theorem untimed_merge_congr {one first other second : Outcome}
    (start : one.untimed = first.untimed) (next : other.untimed = second.untimed) :
    (one.merge other).untimed = (first.merge second).untimed := by
  rw [untimed_merge, start, next, ← untimed_merge]

/-! ## Merging in place -/

/-- The parts of merging in their order. Each writes one list of an outcome and reads the
same list of the other one. -/
def mergeParts : List (Outcome → Outcome → Outcome) :=
  [fun own other => { own with diagnostics := own.diagnostics ++ other.diagnostics },
   fun own other => { own with unitsProcessed := own.unitsProcessed ++ other.unitsProcessed },
   fun own other => { own with unitsSkipped := own.unitsSkipped ++ other.unitsSkipped },
   fun own other => { own with classesChecked := own.classesChecked ++ other.classesChecked },
   fun own other => { own with classesExempt := own.classesExempt ++ other.classesExempt },
   fun own other => { own with classesAnnotated := own.classesAnnotated ++ other.classesAnnotated },
   fun own other => { own with rulesRun := addMissing own.rulesRun other.rulesRun },
   fun own other => { own with rulesFailed := addMissing own.rulesFailed other.rulesFailed },
   fun own other => { own with seconds := own.seconds + other.seconds }]

/-- Outcomes are kept, and parts of merging write to one of them in place. Each part reads
both outcomes as the parts before it left them, since they can be the same. -/
def writeParts (into source : Nat) (parts : List (Outcome → Outcome → Outcome))
    (kept : List Outcome) : List Outcome :=
  parts.foldl (fun kept part => kept.set into (part (kept.getD into {}) (kept.getD source {}))) kept

/-- Merges one of several kept outcomes into one of them, which can be the same. -/
def mergeInto (kept : List Outcome) (into source : Nat) : List Outcome :=
  writeParts into source mergeParts kept

/-- Only one outcome is written to. -/
theorem getElem?_writeParts_of_ne {into place : Nat} (other : place ≠ into) (source : Nat)
    (parts : List (Outcome → Outcome → Outcome)) (kept : List Outcome) :
    (writeParts into source parts kept)[place]? = kept[place]? := by
  unfold writeParts
  induction parts generalizing kept with
  | nil => rfl
  | cons part rest ih => rw [List.foldl_cons, ih, List.getElem?_set_ne other.symm]

/-- Parts that read another outcome read it as it was before the first one. -/
theorem writeParts_of_ne {into source : Nat} (other : source ≠ into)
    (parts : List (Outcome → Outcome → Outcome)) {kept : List Outcome}
    (isKept : into < kept.length) :
    writeParts into source parts kept = kept.set into
      (parts.foldl (fun own part => part own (kept.getD source {})) (kept.getD into {})) := by
  unfold writeParts
  induction parts generalizing kept with
  | nil => simp [isKept]
  | cons part rest ih =>
      rw [List.foldl_cons, ih (by simpa using isKept), List.foldl_cons, List.set_set]
      simp [List.getD, isKept, List.getElem?_set_ne other.symm]

/-- Parts that read the outcome they write to read what has become of it. -/
theorem writeParts_self {place : Nat} (parts : List (Outcome → Outcome → Outcome))
    {kept : List Outcome} (isKept : place < kept.length) :
    writeParts place place parts kept =
      kept.set place (parts.foldl (fun own part => part own own) (kept.getD place {})) := by
  unfold writeParts
  induction parts generalizing kept with
  | nil => simp [isKept]
  | cons part rest ih =>
      rw [List.foldl_cons, ih (by simpa using isKept), List.foldl_cons, List.set_set]
      simp [List.getD, isKept]

/-- Merging in place leaves the merged outcome in its place. This also holds where an
outcome is merged into itself, since no part reads a list that an earlier one wrote. -/
theorem getElem?_mergeInto {kept : List Outcome} {into : Nat} (isKept : into < kept.length)
    (source : Nat) :
    (mergeInto kept into source)[into]? =
      some ((kept.getD into {}).merge (kept.getD source {})) := by
  by_cases same : source = into
  · subst same
    rw [mergeInto, writeParts_self mergeParts isKept, List.getElem?_set_self isKept]
    rfl
  · rw [mergeInto, writeParts_of_ne same mergeParts isKept, List.getElem?_set_self isKept]
    rfl

end Outcome

/-! ## Cutting a run in two -/

namespace Session

theorem executeOnto_append (outcome : Outcome) (places others : List Nat) :
    executeOnto outcome (places ++ others) =
      executeOnto outcome places >>= fun merged => executeOnto merged others := by
  induction places generalizing outcome with
  | nil => rw [List.nil_append, executeOnto, pure_bind]
  | cons place rest ih =>
      rw [List.cons_append, executeOnto, executeOnto, bind_assoc]
      congr 1
      funext next
      exact ih (outcome.merge next)

/-- Walks do the same whatever their outcomes are merged onto. What is merged onto a merged
outcome can be put together first. -/
theorem run_executeOnto_merge (session : Session) {whole first start : Outcome}
    (parts : whole.untimed = (first.merge start).untimed) (places : List Nat) :
    (session.run (executeOnto whole places)).2 = (session.run (executeOnto start places)).2 ∧
      (session.run (executeOnto whole places)).1.map Outcome.untimed =
        (session.run (executeOnto start places)).1.map fun part =>
          (first.merge part).untimed := by
  induction places generalizing session whole start with
  | nil => exact ⟨rfl, congrArg Except.ok parts⟩
  | cons place rest ih =>
      rw [executeOnto, executeOnto, run_bind, run_bind]
      -- Both runs make the same walk, so both fail here or both go on.
      rcases session.run (execute place) with ⟨_ | next, after⟩
      · exact ⟨rfl, rfl⟩
      · have further : (whole.merge next).untimed = (first.merge (start.merge next)).untimed := by
          rw [← Outcome.untimed_merge_assoc]
          exact Outcome.untimed_merge_congr parts rfl
        exact ih after further

/-- A run is cut in two where the first part succeeds. -/
theorem run_executeMany_append {session middle : Session} {first : Outcome} {places : List Nat}
    (ran : session.run (executeMany places) = (.ok first, middle)) (others : List Nat) :
    (session.run (executeMany (places ++ others))).2 = (middle.run (executeMany others)).2 ∧
      (session.run (executeMany (places ++ others))).1.map Outcome.untimed =
        (middle.run (executeMany others)).1.map fun second =>
          (first.merge second).untimed := by
  rw [executeMany] at ran
  rw [executeMany, executeOnto_append, run_bind_of_ok session ran, executeMany]
  exact run_executeOnto_merge middle (Outcome.untimed_merge_empty first).symm others

/-- An engine that finds its configuration runs over units in two parts as in one. -/
theorem run_executeMany_append_of_found {session : Session} {config : Configuration}
    (found : session.found = .ok config) (places others : List Nat) :
    ∃ whole first second middle last,
      session.run (executeMany (places ++ others)) = (.ok whole, last) ∧
      session.run (executeMany places) = (.ok first, middle) ∧
      middle.run (executeMany others) = (.ok second, last) ∧
      whole.untimed = (first.merge second).untimed := by
  obtain ⟨whole, last, ran⟩ := run_executeMany_of_found found (places ++ others)
  obtain ⟨first, middle, ranFirst⟩ := run_executeMany_of_found found places
  obtain ⟨left, parts⟩ := run_executeMany_append ranFirst others
  rw [ran] at left parts
  -- The run over all units succeeds, so its second part cannot fail.
  rcases ranSecond : middle.run (executeMany others) with ⟨_ | second, after⟩
  · rw [ranSecond] at parts
    cases parts
  · rw [ranSecond] at left parts
    obtain rfl : last = after := left
    exact ⟨whole, first, second, middle, last, ran, ranFirst, ranSecond, Except.ok.inj parts⟩

end Session

/-- Outcomes in which no rule is named twice are a monoid, but for the time: merging is
associative, the empty outcome is neutral on both sides, and a merged outcome names the
rules of both once each, in the order in which they first come. Merging in place, list by
list, leaves the merged outcome in the one place and all others as they are, the one that is
merged among them; merged into itself an outcome has its lists twice but for those of rules.
An engine that has or finds its configuration gives the same for a run over some units and
then others, whatever they are, as for the two runs merged, and leaves the same session. -/
theorem merging_joins_runs (session : Session) {config : Configuration}
    (found : session.found = .ok config) (places others : List Nat) :
    (∀ first second third : Outcome,
      ((first.merge second).merge third).untimed = (first.merge (second.merge third)).untimed) ∧
    Outcome.NamesOnce {} ∧
    (∀ outcome : Outcome, outcome.NamesOnce →
      (Outcome.merge {} outcome).untimed = outcome.untimed ∧
        (outcome.merge {}).untimed = outcome.untimed) ∧
    (∀ first second : Outcome, first.NamesOnce →
      (first.merge second).NamesOnce ∧
        (first.merge second).rulesRun = (first.rulesRun ++ second.rulesRun).eraseDups ∧
        (first.merge second).rulesFailed = (first.rulesFailed ++ second.rulesFailed).eraseDups) ∧
    (∀ (kept : List Outcome) (into source : Nat),
      (into < kept.length → (Outcome.mergeInto kept into source)[into]? =
        some ((kept.getD into {}).merge (kept.getD source {}))) ∧
      ∀ place, place ≠ into → (Outcome.mergeInto kept into source)[place]? = kept[place]?) ∧
    (∀ outcome : Outcome,
      (outcome.merge outcome).untimed =
        { outcome.untimed with
          diagnostics := outcome.diagnostics ++ outcome.diagnostics
          unitsProcessed := outcome.unitsProcessed ++ outcome.unitsProcessed
          unitsSkipped := outcome.unitsSkipped ++ outcome.unitsSkipped
          classesChecked := outcome.classesChecked ++ outcome.classesChecked
          classesExempt := outcome.classesExempt ++ outcome.classesExempt
          classesAnnotated := outcome.classesAnnotated ++ outcome.classesAnnotated }) ∧
    ∃ whole first second middle last,
      session.run (Session.executeMany (places ++ others)) = (.ok whole, last) ∧
      session.run (Session.executeMany places) = (.ok first, middle) ∧
      middle.run (Session.executeMany others) = (.ok second, last) ∧
      whole.untimed = (first.merge second).untimed := by
  refine ⟨Outcome.untimed_merge_assoc, ⟨.nil, .nil⟩, ?_, ?_, ?_, Outcome.untimed_merge_self,
    Session.run_executeMany_append_of_found found places others⟩
  · intro outcome once
    exact ⟨Outcome.untimed_empty_merge once, Outcome.untimed_merge_empty outcome⟩
  · intro first second once
    exact ⟨once.merge second, addMissing_eq_eraseDups once.ran second.rulesRun,
      addMissing_eq_eraseDups once.failed second.rulesFailed⟩
  · intro kept into source
    exact ⟨fun isKept => Outcome.getElem?_mergeInto isKept source,
      fun place other => Outcome.getElem?_writeParts_of_ne other source _ kept⟩

/-- A unit is walked in both parts of a run, and its class is marked in the first one. -/
theorem merging_joins_runs_at_repeated_unit :
    let config : Configuration := { dynamicTypingAllowed := false }
    let session : Session :=
      { units := [{ name := "A.groovy", targetDirectory := some "out",
                    classes := [{ name := "p.A" }] }]
        engine := { configuration := some config } }
    let named : Outcome := { rulesRun := ["DEF_METHOD", "DEF_FIELD"], unitsSkipped := ["B.groovy"] }
    session.found = .ok config ∧ named.NamesOnce ∧
      (Outcome.merge {} named).untimed = named.untimed ∧
      (named.merge named).rulesRun = ["DEF_METHOD", "DEF_FIELD"] ∧
      ∃ whole first second middle last,
        session.run (Session.executeMany [0, 0]) = (.ok whole, last) ∧
        session.run (Session.executeMany [0]) = (.ok first, middle) ∧
        middle.run (Session.executeMany [0]) = (.ok second, last) ∧
        whole.untimed = (first.merge second).untimed ∧
        whole.classesAnnotated = ["p.A"] := by
  intro config session named
  have found : session.found = .ok config := rfl
  have once : named.NamesOnce := ⟨by decide, .nil⟩
  obtain ⟨-, -, neutral, -, -, self, whole, first, second, middle, last, ran, ranFirst, ranSecond,
    same⟩ := merging_joins_runs session found [0] [0]
  refine ⟨found, once, (neutral named once).1, congrArg (·.rulesRun) (self named), whole, first,
    second, middle, last, ran, ranFirst, ranSecond, same, ?_⟩
  have annotated : (session.run (Session.executeMany [0, 0])).1.map (·.classesAnnotated) =
      .ok ["p.A"] := by
    rfl
  rw [show [0, 0] = [0] ++ [0] from rfl, ran] at annotated
  exact Except.ok.inj annotated

end CompilePolicy

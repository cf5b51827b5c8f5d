import CompilePolicy.Engine.Outcome
import CompilePolicy.Proofs.Document.Repeats

/-!
# Merged outcomes

Merging outcomes appends most of their lists, and adds to the ids of rules those that are
missing. Ids that are added to none are a list without its repeats, and it does not matter
whether repeats are left out before or after lists are put together.
-/

namespace CompilePolicy

/-! ## Adding what is missing -/

theorem mem_addMissing {known added : List String} {id : String} :
    id ∈ addMissing known added ↔ id ∈ known ∨ id ∈ added := by
  unfold addMissing
  induction added generalizing known with
  | nil => simp
  | cons next rest ih =>
      rw [List.foldl_cons, ih, List.mem_cons]
      by_cases listed : next ∈ known
      · rw [if_pos (by simpa using listed)]
        grind
      · rw [if_neg (by simpa using listed), List.mem_append, List.mem_singleton, or_assoc]

/-- A further id is listed already, or comes last. -/
theorem addMissing_concat (known added : List String) (id : String) :
    addMissing known (added ++ [id]) =
      if id ∈ known ∨ id ∈ added then addMissing known added
      else addMissing known added ++ [id] := by
  have step : addMissing known (added ++ [id]) =
      if (addMissing known added).contains id then addMissing known added
      else addMissing known added ++ [id] := by
    rw [addMissing, List.foldl_append]
    rfl
  rw [step]
  simp only [List.contains_iff_mem, mem_addMissing]

theorem addMissing_append (known first second : List String) :
    addMissing known (first ++ second) = addMissing (addMissing known first) second :=
  List.foldl_append

/-- Ids that are added to none are listed once each. -/
theorem addMissing_nil_left (added : List String) : addMissing [] added = added.eraseDups := by
  induction added using List.reverseRecOn with
  | nil => rfl
  | append_singleton added id ih =>
      rw [addMissing_concat, eraseDups_concat, ih]
      simp only [List.not_mem_nil, false_or]

/-- What was put together before is added at once. -/
theorem addMissing_addMissing (first second third : List String) :
    addMissing first (addMissing second third) = addMissing (addMissing first second) third := by
  induction third using List.reverseRecOn with
  | nil => rfl
  | append_singleton third id ih =>
      rw [addMissing_concat, addMissing_concat]
      by_cases listed : id ∈ second ∨ id ∈ third
      · rw [if_pos listed, if_pos, ih]
        exact listed.imp (fun old => mem_addMissing.mpr (.inr old)) fun old => old
      · rw [if_neg listed, addMissing_concat, ih]
        simp only [mem_addMissing, listed, or_false]
        rw [not_or] at listed
        simp only [listed, or_false]

/-- Repeats can be left out of each list before the lists are put together. -/
theorem addMissing_flatMap {α : Type} (known : List String) (lists : α → List String)
    (all : List α) :
    addMissing known (all.flatMap fun one => addMissing [] (lists one)) =
      addMissing known (all.flatMap lists) := by
  induction all generalizing known with
  | nil => rfl
  | cons one rest ih =>
      have first : addMissing known (addMissing [] (lists one)) = addMissing known (lists one) :=
        addMissing_addMissing known [] (lists one)
      rw [List.flatMap_cons, List.flatMap_cons, addMissing_append, addMissing_append, first, ih]

theorem nodup_addMissing {known : List String} (distinct : known.Nodup) (added : List String) :
    (addMissing known added).Nodup := by
  induction added using List.reverseRecOn with
  | nil => exact distinct
  | append_singleton added id ih =>
      rw [addMissing_concat]
      split
      · exact ih
      · rename_i new
        rw [← mem_addMissing] at new
        exact List.nodup_append.mpr ⟨ih, List.pairwise_singleton _ id, by grind⟩

/-- Nothing is added where all is listed. -/
theorem addMissing_of_forall_mem {known added : List String} (listed : ∀ id ∈ added, id ∈ known) :
    addMissing known added = known := by
  induction added using List.reverseRecOn with
  | nil => rfl
  | append_singleton added id ih =>
      rw [List.forall_mem_append, List.forall_mem_singleton] at listed
      rw [addMissing_concat, if_pos (.inl listed.2), ih listed.1]

/-- Distinct ids that are added to none stay as they are. -/
theorem addMissing_nil_of_nodup {added : List String} (distinct : added.Nodup) :
    addMissing [] added = added := by
  induction added using List.reverseRecOn with
  | nil => rfl
  | append_singleton added id ih =>
      obtain ⟨others, -, apart⟩ := List.nodup_append.mp distinct
      have new : id ∉ added := fun listed => apart id listed id (List.mem_singleton_self id) rfl
      rw [addMissing_concat, if_neg (by simp [new]), ih others]

/-- The same distinct ids can be added over and over: they are listed once. -/
theorem addMissing_flatMap_const {α : Type} {known ids : List String} (distinct : ids.Nodup)
    (start : known = [] ∨ known = ids) (all : List α) :
    addMissing known (all.flatMap fun _ => ids) = if known = [] ∧ all = [] then [] else ids := by
  have again : ∀ more : List α, addMissing ids (more.flatMap fun _ => ids) = ids := by
    intro more
    apply addMissing_of_forall_mem
    intro id listed
    obtain ⟨_, -, same⟩ := List.mem_flatMap.mp listed
    exact same
  rcases start with rfl | rfl
  · cases all with
    | nil => rfl
    | cons one rest =>
        rw [if_neg (by simp), List.flatMap_cons, addMissing_append,
          addMissing_nil_of_nodup distinct, again]
  · rw [again]
    split
    · rename_i none
      exact none.1
    · rfl

theorem filter_addMissing (keep : String → Bool) (known added : List String) :
    (addMissing known added).filter keep = addMissing (known.filter keep) (added.filter keep) := by
  unfold addMissing
  induction added generalizing known with
  | nil => rfl
  | cons id rest ih =>
      rw [List.foldl_cons, ih]
      by_cases kept : keep id
      · by_cases listed : id ∈ known
        · simp [kept, listed]
        · simp [kept, listed]
      · by_cases listed : id ∈ known
        · simp [kept, listed]
        · simp [kept, listed]

/-! ## Merging many outcomes -/

/-- A list that merging appends is made of the lists of all outcomes. -/
theorem foldl_merge_append {α : Type} {list : Outcome → List α}
    (appends : ∀ first second : Outcome, list (first.merge second) = list first ++ list second)
    (outcomes : List Outcome) (first : Outcome) :
    list (outcomes.foldl Outcome.merge first) = list first ++ outcomes.flatMap list := by
  induction outcomes generalizing first with
  | nil => simp
  | cons next rest ih => rw [List.foldl_cons, ih, appends, List.flatMap_cons, List.append_assoc]

/-- The rules that ran are put together. -/
theorem rulesRun_foldl_merge (outcomes : List Outcome) (first : Outcome) :
    (outcomes.foldl Outcome.merge first).rulesRun =
      addMissing first.rulesRun (outcomes.flatMap (·.rulesRun)) := by
  induction outcomes generalizing first with
  | nil => rfl
  | cons next rest ih =>
      rw [List.foldl_cons, ih, Outcome.merge, List.flatMap_cons, addMissing_append]

/-- The rules that failed are put together. -/
theorem rulesFailed_foldl_merge (outcomes : List Outcome) (first : Outcome) :
    (outcomes.foldl Outcome.merge first).rulesFailed =
      addMissing first.rulesFailed (outcomes.flatMap (·.rulesFailed)) := by
  induction outcomes generalizing first with
  | nil => rfl
  | cons next rest ih =>
      rw [List.foldl_cons, ih, Outcome.merge, List.flatMap_cons, addMissing_append]

end CompilePolicy

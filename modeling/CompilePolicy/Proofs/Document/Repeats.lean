import CompilePolicy.Document.Ordered
import Mathlib.Data.List.Induction

/-!
# Lists without repeats

A list without its repeats has each item once, where it came first. Lists are also made
item by item, and items for which nothing is made can be left out before. A name that
is set in a list of distinct names gets its value where it stands, or comes last.
-/

namespace CompilePolicy

/-- Items for which there is nothing can be left out. -/
theorem flatMap_ite_nil {α β : Type} (isLeft : α → Prop) [DecidablePred isLeft]
    (own : α → List β) (items : List α) :
    (items.flatMap fun item => if isLeft item then [] else own item) =
      (items.filter (¬isLeft ·)).flatMap own := by
  induction items with
  | nil => rfl
  | cons item rest ih =>
      rw [List.flatMap_cons, ih]
      by_cases left : isLeft item
      · simp [left]
      · simp [left]

variable {α : Type} [DecidableEq α]

/-- A further item is new or stands already where it was first. -/
theorem eraseDups_concat (items : List α) (item : α) :
    (items ++ [item]).eraseDups =
      if item ∈ items then items.eraseDups else items.eraseDups ++ [item] := by
  rw [List.eraseDups_append]
  by_cases known : item ∈ items
  · simp [List.removeAll, known]
  · simp [List.removeAll, known, List.eraseDups_cons]

/-- Repeats can be left out before or after other items are left out. -/
theorem eraseDups_filter (keep : α → Bool) (items : List α) :
    (items.filter keep).eraseDups = items.eraseDups.filter keep := by
  induction items using List.reverseRecOn with
  | nil => rfl
  | append_singleton items item ih =>
      rw [eraseDups_concat, List.filter_append]
      by_cases kept : keep item
      · rw [List.filter_cons_of_pos kept, List.filter_nil, eraseDups_concat, ih]
        by_cases known : item ∈ items
        · simp [known, kept]
        · simp [known, kept]
      · rw [List.filter_cons_of_neg kept, List.filter_nil, List.append_nil, ih]
        by_cases known : item ∈ items
        · simp [known]
        · simp [known, kept]

theorem nodup_eraseDups (items : List α) : items.eraseDups.Nodup := by
  induction items using List.reverseRecOn with
  | nil => simp
  | append_singleton items item ih =>
      rw [eraseDups_concat]
      split
      · exact ih
      · rename_i new
        rw [List.nodup_append]
        refine ⟨ih, List.pairwise_singleton _ item, ?_⟩
        rintro other listed _ added rfl
        rw [List.mem_singleton.mp added, List.mem_eraseDups] at listed
        exact new listed

/-- Setting a name changes what stands under it, or adds it at the end. -/
theorem setField_map {β : Type} {names : List String} (distinct : names.Nodup)
    (given : String → β) (name : String) (value : β) :
    Document.setField (names.map fun other => (other, given other)) name value =
      if name ∈ names then
        names.map fun other => (other, if name = other then value else given other)
      else names.map (fun other => (other, given other)) ++ [(name, value)] := by
  unfold Document.setField
  induction names with
  | nil => rfl
  | cons first rest ih =>
      rw [List.nodup_cons] at distinct
      rcases distinct with ⟨apart, distinct⟩
      by_cases same : name = first
      · subst same
        have others : rest.map (fun other => (other, given other)) =
            rest.map fun other => (other, if name = other then value else given other) := by
          apply List.map_congr_left
          intro other listed
          rw [if_neg]
          rintro rfl
          exact apart listed
        simp [Document.setBy, others]
      · have passed : (first == name) = false := by
          simpa using Ne.symm same
        simp only [List.map_cons, Document.setBy, passed, Bool.false_eq_true, if_false, ih distinct,
          List.mem_cons, same, false_or]
        split <;> rfl

end CompilePolicy

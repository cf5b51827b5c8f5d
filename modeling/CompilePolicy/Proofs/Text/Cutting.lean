import CompilePolicy.Text.Split
import CompilePolicy.Tree.Annotations

/-!
# Cutting at a separator

A cut at the first occurrence of a separator leaves none in front of it, and a
cut at the last one leaves none behind it. The name of a mode is what stands
behind its last dot, so a mode has a name exactly when it is that name or ends
in a dot and that name.
-/

namespace CompilePolicy.Text

/-- There is nothing to cut at exactly when the separator does not occur. -/
theorem cutAtFirst?_eq_none_iff {separator : Char} {chars : List Char} :
    cutAtFirst? separator chars = none ↔ separator ∉ chars := by
  induction chars with
  | nil => simp [cutAtFirst?]
  | cons c rest ih =>
      by_cases same : c = separator
      · simp [cutAtFirst?, same]
      · simp [cutAtFirst?, same, Ne.symm same, ih]

/-- A cut at the first separator has no separator in front of it. -/
theorem cutAtFirst?_eq_some_iff {separator : Char} {chars front back : List Char} :
    cutAtFirst? separator chars = some (front, back) ↔
      chars = front ++ separator :: back ∧ separator ∉ front := by
  induction chars generalizing front with
  | nil => simp [cutAtFirst?]
  | cons c rest ih =>
      by_cases same : c = separator
      · subst same
        simp only [cutAtFirst?, if_true, Option.some.injEq, Prod.mk.injEq]
        constructor
        · rintro ⟨rfl, rfl⟩
          simp
        · rintro ⟨cut, free⟩
          cases front with
          | nil => simpa using cut
          | cons first more =>
              simp only [List.cons_append, List.cons.injEq] at cut
              simp [cut.1] at free
      · simp only [cutAtFirst?, if_neg same, Option.map_eq_some_iff, Prod.mk.injEq]
        constructor
        · rintro ⟨⟨inner, tail⟩, found, rfl, rfl⟩
          obtain ⟨cut, free⟩ := ih.mp found
          exact ⟨by rw [cut]; rfl, by simp [Ne.symm same, free]⟩
        · rintro ⟨cut, free⟩
          cases front with
          | nil => exact absurd (List.cons.inj cut).1 same
          | cons first more =>
              obtain ⟨rfl, cutRest⟩ := List.cons.inj cut
              have freeRest : separator ∉ more := fun member =>
                free (List.mem_cons_of_mem c member)
              exact ⟨(more, back), ih.mpr ⟨cutRest, freeRest⟩, rfl, rfl⟩

/-- There is nothing to cut at exactly when the separator does not occur. -/
theorem cutAtLast?_eq_none_iff {separator : Char} {chars : List Char} :
    cutAtLast? separator chars = none ↔ separator ∉ chars := by
  simp [cutAtLast?, cutAtFirst?_eq_none_iff]

/-- A cut at the last separator has no separator behind it. -/
theorem cutAtLast?_eq_some_iff {separator : Char} {chars front back : List Char} :
    cutAtLast? separator chars = some (front, back) ↔
      chars = front ++ separator :: back ∧ separator ∉ back := by
  simp only [cutAtLast?, Option.map_eq_some_iff, Prod.mk.injEq]
  constructor
  · rintro ⟨⟨behind, before⟩, found, rfl, rfl⟩
    obtain ⟨cut, free⟩ := cutAtFirst?_eq_some_iff.mp found
    refine ⟨?_, by simpa using free⟩
    rw [← List.reverse_reverse chars, cut]
    simp
  · rintro ⟨rfl, free⟩
    refine ⟨(back.reverse, front.reverse), ?_, by simp, by simp⟩
    exact cutAtFirst?_eq_some_iff.mpr ⟨by simp, by simpa using free⟩

end CompilePolicy.Text

namespace CompilePolicy

/-- A mode is called by a name without dots exactly when it is this name or ends
in a dot and this name. -/
theorem modeLiteral_eq_iff {mode name : String} (plain : '.' ∉ name.toList) :
    modeLiteral mode = name ↔ mode = name ∨ ('.' :: name.toList) <:+ mode.toList := by
  unfold modeLiteral
  cases cut : Text.cutAtLast? '.' mode.toList with
  | none =>
      have free : '.' ∉ mode.toList := Text.cutAtLast?_eq_none_iff.mp cut
      constructor
      · exact Or.inl
      · rintro (same | ending)
        · exact same
        · exact absurd (ending.subset List.mem_cons_self) free
  | some parts =>
      obtain ⟨front, literal⟩ := parts
      obtain ⟨whole, free⟩ := Text.cutAtLast?_eq_some_iff.mp cut
      constructor
      · rintro rfl
        right
        rw [whole, String.toList_ofList]
        exact List.suffix_append front ('.' :: literal)
      · rintro (same | ⟨before, ending⟩)
        · subst same
          exact absurd (whole ▸ by simp) plain
        · have again : Text.cutAtLast? '.' mode.toList = some (before, name.toList) :=
            Text.cutAtLast?_eq_some_iff.mpr ⟨ending.symm, plain⟩
          rw [cut, Option.some.injEq, Prod.mk.injEq] at again
          change String.ofList literal = name
          rw [again.2, String.ofList_toList]

end CompilePolicy

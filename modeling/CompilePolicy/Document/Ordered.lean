/-!
# Ordered entries

Entries in the order of their first keys. Setting a key that is present changes
its value and moves nothing; a new key goes to the end.
-/

namespace CompilePolicy.Document

variable {κ α : Type}

/-- Sets a key, where `same` says which keys are one key. The key that came
first stays. -/
def setBy (same : κ → κ → Bool) : List (κ × α) → κ → α → List (κ × α)
  | [], key, value => [(key, value)]
  | (old, current) :: rest, key, value =>
    if same old key then (old, value) :: rest
    else (old, current) :: setBy same rest key value

/-- Sets a text key. -/
def setField (fields : List (String × α)) (key : String) (value : α) : List (String × α) :=
  setBy (· == ·) fields key value

/-- Takes a text key away. -/
def removeField (fields : List (String × α)) (key : String) : List (String × α) :=
  fields.filter (·.1 != key)

/-- A set key has the value it was set to. -/
theorem lookup_setField_self (fields : List (String × α)) (key : String) (value : α) :
    (setField fields key value).lookup key = some value := by
  unfold setField
  induction fields with
  | nil => simp [setBy]
  | cons field rest ih =>
    obtain ⟨old, current⟩ := field
    by_cases same : old = key
    · simp [setBy, same]
    · have other : (key == old) = false := by simpa using Ne.symm same
      simp [setBy, same, List.lookup_cons, other, ih]

/-- The other keys keep their values. -/
theorem lookup_setField_of_ne (fields : List (String × α)) {key other : String} (value : α)
    (different : other ≠ key) :
    (setField fields key value).lookup other = fields.lookup other := by
  unfold setField
  induction fields with
  | nil => simp [setBy, List.lookup_cons, beq_eq_false_iff_ne.mpr different]
  | cons field rest ih =>
    obtain ⟨old, current⟩ := field
    by_cases same : old = key
    · subst same
      simp [setBy, List.lookup_cons, beq_eq_false_iff_ne.mpr different]
    · simp [setBy, same, List.lookup_cons, ih]

/-- A key that is not set yet is set at the end. -/
theorem setField_of_not_mem {fields : List (String × α)} {key : String}
    (new : key ∉ fields.map (·.1)) (value : α) :
    setField fields key value = fields ++ [(key, value)] := by
  unfold setField
  induction fields with
  | nil => rfl
  | cons field rest ih =>
    rw [List.map_cons, List.mem_cons, not_or] at new
    have passed : (field.1 == key) = false := by simpa using Ne.symm new.1
    rw [setBy, passed, ih new.2]
    rfl

end CompilePolicy.Document

import CompilePolicy.Proofs.Tree.Editing

/-!
# Containers of the wrong type

Where a descriptor has to hold a list or members, a value of another type is refused only if it
stands for something. False, zero, the empty text and an empty container of the wrong type are
read as null is, so a document with one of them is read like the document with null there.
-/

namespace CompilePolicy.Descriptor

open CompilePolicy.Document Format

/-! ## Refused containers -/

/-- A key of a document that has to hold a list or members holds a value that is neither null nor
of the right type. -/
inductive HoldsWrong (document given : Value) : Prop
  | units {entries : Entries} (mapped : document.entries? = some entries)
      (held : entries.get? "units" = some given) (notNull : given ≠ .null)
      (notList : given.items? = none) : HoldsWrong document given
  | list {element child : Element} {value : Value} {entries : Entries} {key : String}
      (isIn : IsIn document element value) (mapped : value.entries? = some entries)
      (listed : (key, child) ∈ element.lists) (held : entries.get key = given)
      (notNull : given ≠ .null) (notList : given.items? = none) : HoldsWrong document given
  | members {value : Value} {entries : Entries} (isIn : IsIn document .note value)
      (mapped : value.entries? = some entries) (held : entries.get "members" = given)
      (notNull : given ≠ .null) (notMapping : given.entries? = none) : HoldsWrong document given

/-- An accepted document consists of accepted elements. -/
theorem accepts_of_isIn {document value : Value} {units : List CompilationUnit}
    {element : Element} (read : readUnits document = .ok units)
    (isIn : IsIn document element value) : element.Accepts value := by
  rcases readUnits_eq_ok_iff.mp read with ⟨items, listed, all⟩
  rcases isIn with ⟨others, same, item, isItem, contains⟩
  cases Except.ok.inj (listed.symm.trans same)
  rcases exists_result all isItem with ⟨unit, -, one⟩
  have accepts : Element.unit.Accepts item := ⟨unit, one⟩
  exact accepts.contained contains

theorem itemsOf?_of_wrong {given : Value} (something : given.isTruthy = true)
    (notList : given.items? = none) : itemsOf? given = none := by
  rw [itemsOf?, if_pos something, notList]

/-- The units under their key are the items where a list is expected. -/
theorem unitItems_of_units {document given : Value} {entries : Entries}
    (mapped : document.entries? = some entries) (held : entries.get? "units" = some given) :
    unitItems document = (itemsOf? given).elim (refuse .notList) .ok := by
  have notList : document.items? = none := by
    unfold Value.entries? at mapped
    unfold Value.items?
    cases same : document.untie with
    | list items =>
        rw [same] at mapped
        cases mapped
    | _ => rfl
  unfold unitItems itemsOf?
  rw [notList, mapped]
  dsimp only
  rw [held]
  dsimp only
  split
  · cases given.items? <;> rfl
  · rfl

/-- A document with something of the wrong type for a container is not accepted. -/
theorem not_accepted_of_holdsWrong {document given : Value} (wrong : HoldsWrong document given)
    (something : given.isTruthy = true) (units : List CompilationUnit) :
    readUnits document ≠ .ok units := by
  intro read
  cases wrong with
  | units mapped held _ notList =>
      rcases readUnits_eq_ok_iff.mp read with ⟨items, listed, -⟩
      rw [unitItems_of_units mapped held, itemsOf?_of_wrong something notList] at listed
      cases listed
  | list isIn mapped listed held _ notList =>
      rcases (accepts_of_isIn read isIn).lists mapped listed with ⟨items, expected, -⟩
      rw [held, itemsOf?_of_wrong something notList] at expected
      cases expected
  | members isIn mapped held _ notMapping =>
      rcases (accepts_of_isIn read isIn).members mapped with ⟨members, expected⟩
      rw [held, membersOf?, if_pos something, notMapping] at expected
      cases expected

/-! ## Emptied containers -/

/-- The keys of an element that hold a list or members. -/
def Element.IsContainer (element : Element) (key : String) : Prop :=
  (∃ child, (key, child) ∈ element.lists) ∨ element = .note ∧ key = "members"

/-- In a mapping null takes the place of a list or of members that stand for nothing. -/
def Empties (element : Element) (entries others : Entries) : Prop :=
  ∃ key, element.IsContainer key ∧ (entries.get key).isTruthy = false ∧
    others = put entries key .null

theorem readListIn_of_nothing {α : Type} {entries : Entries} {key : String}
    (nothing : (entries.get key).isTruthy = false) (read : Value → Reading α) :
    readListIn entries key read = .ok [] := by
  rw [readListIn_eq_ok_iff]
  refine ⟨[], ?_, .nil⟩
  rw [itemsOf?, nothing]
  rfl

/-- Containers that stand for nothing do not count. -/
theorem Empties.agree {element : Element} {entries others : Entries}
    (empties : Empties element entries others) : Agree element entries others := by
  rcases empties with ⟨key, ⟨child, listed⟩ | ⟨rfl, rfl⟩, nothing, rfl⟩
  · have gone : ((put entries key .null).get key).isTruthy = false := by
      rw [get_put_null]
      rfl
    apply agree_put_list listed
    rw [readListIn_of_nothing nothing, readListIn_of_nothing gone]
  · exact {
      scalars := fun scalar isScalar => by
        cases List.mem_singleton.mp isScalar
        exact (get_put_of_ne _ (by decide)).symm
      lists := fun another inner listed => by cases listed
      members := fun _ => by
        unfold membersGiven
        rw [get_put_null, nothing]
        rfl
      unitName := nofun }

/-- In a document null takes the place of one list, or of the members of one annotation, that
stands for nothing. -/
inductive Emptied (document emptied : Value) : Prop
  | units {entries : Entries} {given : Value} (mapped : document.entries? = some entries)
      (held : entries.get? "units" = some given) (nothing : given.isTruthy = false)
      (replaced : emptied = .map (put entries "units" .null)) : Emptied document emptied
  | inside {before after : List Value} {item other : Value}
      (listed : unitItems document = .ok (before ++ item :: after))
      (edited : Edited Empties .unit item other)
      (replaced : unitItems emptied = .ok (before ++ other :: after)) : Emptied document emptied

theorem readUnits_eq_of_emptied {document emptied : Value} (empties : Emptied document emptied) :
    readUnits document = readUnits emptied := by
  unfold readUnits
  cases empties with
  | @units entries given mapped held nothing replaced =>
      have gone : unitItems document = .ok [] := by
        rw [unitItems_of_units mapped held, itemsOf?, nothing]
        rfl
      have null : Entries.get? (put entries "units" .null) "units" = some .null := by
        rw [get?_put, if_pos rfl, held]
        rfl
      rw [gone, replaced, unitItems_of_units rfl null]
      rfl
  | inside listed edited replaced =>
      rw [listed, replaced]
      have keeps : ∀ element, element ≠ .unit → ∀ entries others, Empties element entries others →
          Agree element entries others := fun _ _ _ _ empties => empties.agree
      apply readItems_replace
      rcases edited.of_unit keeps with ⟨entries, others, mapped, rfl, empties | ⟨agree, -⟩⟩
      · exact empties.agree.read_eq mapped rfl
      · exact agree.read_eq mapped rfl

/-- A value of the wrong type for a list or for members ends the reading of a document if it
stands for something: with a fault of the format, unless a whole number with too many digits ends
it first. If it stands for nothing, the document is read exactly as if null were in its place. -/
theorem wrong_container_is_refused_if_truthy (document : Value) :
    (∀ given, HoldsWrong document given → given.isTruthy = true →
      ∃ fault, readUnits document = .error fault ∧
        (fault.problem = .tooManyDigits → HoldsLong document)) ∧
    ∀ emptied, Emptied document emptied → readUnits document = readUnits emptied := by
  constructor
  · intro given wrong something
    cases read : readUnits document with
    | ok units => exact absurd read (not_accepted_of_holdsWrong wrong something units)
    | error fault => exact ⟨fault, rfl, failsOnly_readUnits document fault read⟩
  · intro emptied empties
    exact readUnits_eq_of_emptied empties

/-- Classes that are `false` are read as if they were null, and classes that are `true` are
refused. -/
theorem wrong_container_is_refused_if_truthy_at_classes :
    let withClasses (classes : Value) : Value :=
      .record [("name", .string "u"), ("classes", classes)]
    HoldsWrong (withClasses (.bool false)) (.bool false) ∧
      HoldsWrong (withClasses (.bool true)) (.bool true) ∧
      Emptied (withClasses (.bool false)) (withClasses .null) ∧
      readUnits (withClasses (.bool false)) = .ok [{ name := "u" }] ∧
      ∃ fault, readUnits (withClasses (.bool true)) = .error fault ∧
        fault.problem ≠ .tooManyDigits := by
  intro withClasses
  have isIn : ∀ classes, IsIn (withClasses classes) .unit (withClasses classes) := by
    intro classes
    exact ⟨_, rfl, _, List.mem_singleton_self _, .itself _ _⟩
  have wrong : ∀ flag, HoldsWrong (withClasses (.bool flag)) (.bool flag) := by
    intro flag
    exact .list (isIn _) rfl (List.mem_singleton_self _) rfl nofun rfl
  have empties : Empties .unit [(.string "name", .string "u"), (.string "classes", .bool false)]
      [(.string "name", .string "u"), (.string "classes", .null)] :=
    ⟨"classes", .inl ⟨_, List.mem_singleton_self _⟩, rfl, rfl⟩
  have emptied : Emptied (withClasses (.bool false)) (withClasses .null) :=
    @Emptied.inside _ _ [] [] _ _ rfl (.here rfl empties) rfl
  refine ⟨wrong false, wrong true, emptied, ?_, ?_⟩
  · rw [(wrong_container_is_refused_if_truthy _).2 _ emptied]
    rfl
  · rcases (wrong_container_is_refused_if_truthy _).1 _ (wrong true) rfl with ⟨fault, read, only⟩
    refine ⟨fault, read, fun wanting => ?_⟩
    have long := only wanting
    simp [withClasses, Value.record, holdsLong_map_iff, not_holdsLong_string] at long
    cases long

end CompilePolicy.Descriptor

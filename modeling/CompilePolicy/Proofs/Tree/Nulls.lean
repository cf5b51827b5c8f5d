import CompilePolicy.Proofs.Policy.Locality
import CompilePolicy.Proofs.Tree.Editing

/-!
# Null and missing values

In the mapping of an element a null is as good as a missing value, whatever the key: the readers
ask for a value with null in the place of a missing one. There is one exception. The name of a
unit is asked for as it is, and a null there is shown as a text, while a missing name is empty.
-/

namespace CompilePolicy.Descriptor

open CompilePolicy.Document
open CompilePolicy.Conventions (AreDistinct get?_eq_some_iff)

/-- Whether a value is null. -/
def isNull : Value → Bool
  | .null => true
  | _ => false

/-- The entries whose value is not null. -/
def withoutNulls (entries : Entries) : Entries :=
  entries.filter fun entry => !isNull entry.2

/-- Without its null entries a mapping gives the values that are not null. -/
theorem get?_withoutNulls {entries : Entries} (distinct : AreDistinct entries) (key : String) :
    (withoutNulls entries).get? key = (entries.get? key).filter (!isNull ·) := by
  have distinctToo : AreDistinct (withoutNulls entries) := List.Pairwise.filter _ distinct
  apply Option.ext
  intro value
  rw [get?_eq_some_iff distinctToo, withoutNulls, List.mem_filter, Option.filter_eq_some_iff,
    get?_eq_some_iff distinct]

theorem get_withoutNulls {entries : Entries} (distinct : AreDistinct entries) (key : String) :
    (withoutNulls entries).get key = entries.get key := by
  rw [Entries.get, Entries.get, get?_withoutNulls distinct]
  cases entries.get? key with
  | none => rfl
  | some value => cases value <;> rfl

/-- A mapping loses its null entries. Its keys are distinct. -/
def DropsNulls (_ : Element) (entries others : Entries) : Prop :=
  AreDistinct entries ∧ others = withoutNulls entries

theorem DropsNulls.get_eq {element : Element} {entries others : Entries}
    (drops : DropsNulls element entries others) (key : String) :
    entries.get key = others.get key := by
  rw [drops.2, get_withoutNulls drops.1]

/-- A name that is not null stays. -/
theorem DropsNulls.readUnitName_eq {element : Element} {entries others : Entries}
    (drops : DropsNulls element entries others) (stays : entries.get? "name" ≠ some .null) :
    readUnitName entries = readUnitName others := by
  have names : others.get? "name" = entries.get? "name" := by
    rw [drops.2, get?_withoutNulls drops.1]
    cases named : entries.get? "name" with
    | none => rfl
    | some value =>
        cases value with
        | null => exact absurd named stays
        | _ => rfl
  unfold readUnitName
  rw [names]

/-- Null entries do not count, apart from the name of a unit. -/
theorem DropsNulls.agree {element : Element} {entries others : Entries}
    (drops : DropsNulls element entries others)
    (unitName : element = .unit → readUnitName entries = readUnitName others) :
    Agree element entries others where
  scalars key _ := drops.get_eq key
  lists key child _ := readListIn_congr (drops.get_eq key) child.read
  members _ := by rw [membersGiven, membersGiven, drops.get_eq]
  unitName := unitName

/-! ## The name of a unit -/

/-- A unit has null for its name and then has none. -/
def LosesNullName (before after : Value) : Prop :=
  ∃ entries others : Entries, before.entries? = some entries ∧ after.entries? = some others ∧
    entries.get? "name" = some .null ∧ others.get? "name" = none

theorem readUnitName_of_null {entries : Entries} (null : entries.get? "name" = some .null) :
    readUnitName entries = .ok "None" := by
  unfold readUnitName
  rw [null]
  rfl

theorem readUnitName_of_missing {entries : Entries} (missing : entries.get? "name" = none) :
    readUnitName entries = .ok "" := by
  unfold readUnitName
  rw [missing]

/-- A unit with null for its name is read like one without a name that gives the same for all
else, but for the name. -/
theorem readUnit_of_null_name {before after : Value} {entries others : Entries}
    (mapped : before.entries? = some entries) (mappedToo : after.entries? = some others)
    (null : entries.get? "name" = some .null) (missing : others.get? "name" = none)
    (same : ∀ key, entries.get key = others.get key) :
    readUnit before = (readUnit after).map fun unit => { unit with name := "None" } := by
  unfold readUnit
  rw [mappingOf_eq_ok_iff.mpr mapped, mappingOf_eq_ok_iff.mpr mappedToo]
  change (readUnitName entries >>= _) = Except.map _ (readUnitName others >>= _)
  rw [readUnitName_of_null null, readUnitName_of_missing missing,
    readTarget_congr (same "target_directory"), readListIn_congr (same "classes")]
  cases readTarget others with
  | error fault => rfl
  | ok directory => cases readListIn others "classes" readClass <;> rfl

theorem name_of_missing {value : Value} {entries : Entries}
    (mapped : value.entries? = some entries) (missing : entries.get? "name" = none)
    {unit : CompilationUnit} (read : readUnit value = .ok unit) : unit.name = "" := by
  rcases readUnit_eq_ok_iff.mp read with ⟨others, same, named, -, -⟩
  cases Option.some.inj (mapped.symm.trans same)
  rw [readUnitName_of_missing missing] at named
  exact (Except.ok.inj named).symm

/-- In a unit, and in every class, field, method, parameter and annotation in it, the entries with
null can be removed: the unit is read alike, with the same result or the same fault. The one
exception is a unit that loses a null as its name. It is read alike but for the name, which is
the text of null before and empty afterwards. -/
theorem null_is_missing_but_for_unit_name {before after : Value}
    (edited : Edited DropsNulls .unit before after) :
    (¬LosesNullName before after → readUnit before = readUnit after) ∧
      (LosesNullName before after →
        readUnit before = (readUnit after).map (fun unit => { unit with name := "None" }) ∧
          ∀ unit, readUnit after = .ok unit → unit.name = "") := by
  have keeps : ∀ element, element ≠ .unit → ∀ entries others, DropsNulls element entries others →
      Agree element entries others :=
    fun element isInner entries others drops => drops.agree fun isUnit => absurd isUnit isInner
  rcases edited.of_unit keeps with ⟨entries, others, mapped, rfl, changed⟩
  constructor
  · intro keepsName
    rcases changed with drops | ⟨agree, -⟩
    · refine (drops.agree fun _ => drops.readUnitName_eq fun null => ?_).read_eq mapped rfl
      apply keepsName
      refine ⟨entries, others, mapped, rfl, null, ?_⟩
      rw [drops.2, get?_withoutNulls drops.1, null]
      rfl
    · exact agree.read_eq mapped rfl
  · rintro ⟨own, another, same, sameToo, null, missing⟩
    cases Option.some.inj (mapped.symm.trans same)
    cases Option.some.inj sameToo
    refine ⟨?_, fun unit => name_of_missing rfl missing⟩
    rcases changed with drops | ⟨-, sameName⟩
    · exact readUnit_of_null_name mapped rfl null missing drops.get_eq
    · rw [sameName, null] at missing
      cases missing

/-- A unit with null for its name is named after it, and without the null it has no name. The null
flag of a field in it can be removed. -/
theorem null_is_missing_but_for_unit_name_at_null_name :
    let field : Value := .record [("name", .string "x"), ("dynamically_typed", .null)]
    let unitOf (field : Value) : Value := .record [("name", .null),
      ("classes", .list [.record [("name", .string "a.A"), ("fields", .list [field])]])]
    let named : Value := .record [("name", .string "x")]
    let nameless : Value := .record [("classes",
      .list [.record [("name", .string "a.A"), ("fields", .list [named])]])]
    Edited DropsNulls .unit (unitOf field) (unitOf named) ∧
      readUnit (unitOf field) = readUnit (unitOf named) ∧
      Edited DropsNulls .unit (unitOf named) nameless ∧ LosesNullName (unitOf named) nameless ∧
      (∃ unit, readUnit nameless = .ok unit ∧ unit.name = "" ∧
        readUnit (unitOf named) = .ok { unit with name := "None" }) := by
  intro field unitOf named nameless
  have inner : Edited DropsNulls .unit (unitOf field) (unitOf named) := by
    have own : DropsNulls .field
        [(.string "name", .string "x"), (.string "dynamically_typed", .null)]
        [(.string "name", .string "x")] := ⟨by unfold AreDistinct; decide, rfl⟩
    have inClass := @Edited.inside DropsNulls .classDecl .field
      (.record [("name", .string "a.A"), ("fields", .list [field])]) field named
      [(.string "name", .string "a.A"), (.string "fields", .list [field])] "fields" [] [] rfl
      (by decide) rfl (.here rfl own)
    exact @Edited.inside DropsNulls .unit .classDecl (unitOf field) _ _ _ "classes" [] [] rfl
      (by decide) rfl inClass
  have own : DropsNulls .unit [(.string "name", .null), (.string "classes",
      .list [.record [("name", .string "a.A"), ("fields", .list [named])]])] [(.string "classes",
      .list [.record [("name", .string "a.A"), ("fields", .list [named])]])] :=
    ⟨by unfold AreDistinct; decide, rfl⟩
  have outer : Edited DropsNulls .unit (unitOf named) nameless := .here rfl own
  have loses : LosesNullName (unitOf named) nameless := ⟨_, _, rfl, rfl, rfl, rfl⟩
  have keeps : ¬LosesNullName (unitOf field) (unitOf named) := by
    rintro ⟨entries, others, -, same, -, missing⟩
    cases same
    cases missing
  refine ⟨inner, (null_is_missing_but_for_unit_name inner).1 keeps, outer, loses, ?_⟩
  have read : ∃ unit, readUnit nameless = .ok unit := ⟨_, rfl⟩
  rcases read with ⟨unit, read⟩
  rcases (null_is_missing_but_for_unit_name outer).2 loses with ⟨same, empty⟩
  exact ⟨unit, read, empty unit read, by rw [same, read]; rfl⟩

end CompilePolicy.Descriptor

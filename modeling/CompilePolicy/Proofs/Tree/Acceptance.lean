import CompilePolicy.Proofs.Tree.Agreement
import Mathlib.Data.List.Forall2

/-!
# What an accepted part was read from

A reading gives a part only by making every step of its reader, so the part consists of what
the steps gave, and what the steps gave determines it. Each reader has one statement of this.
-/

namespace CompilePolicy.Descriptor

open CompilePolicy.Document Format

/-! ## Steps -/

section

variable {α β : Type}

/-- Two steps give a result if the second one gives it from what the first one gives. -/
theorem bind_eq_ok_iff {first : Reading α} {next : α → Reading β} {result : β} :
    (first >>= next) = .ok result ↔ ∃ middle, first = .ok middle ∧ next middle = .ok result := by
  constructor
  · intro given
    cases read : first with
    | error fault =>
        rw [read] at given
        cases given
    | ok middle =>
        rw [read] at given
        exact ⟨middle, rfl, given⟩
  · rintro ⟨middle, rfl, given⟩
    exact given

theorem map_bind (reading : Reading α) (f : α → β) {γ : Type} (next : β → Reading γ) :
    (reading.map f >>= next) = (reading >>= fun value => next (f value)) := by
  cases reading <;> rfl

theorem listIn_eq_ok_iff {entries : Entries} {key : String} {items : List Value} :
    listIn entries key = .ok items ↔ itemsOf? (entries.get key) = some items := by
  unfold itemsOf?
  simp only [listIn]
  by_cases something : (entries.get key).isTruthy = true
  · simp only [something, if_true]
    cases (entries.get key).items? <;> simp [refuse, under]
  · simp [something]

/-- The items of a list are read if each of them is. -/
theorem readItems_eq_ok_iff {read : Value → Reading α} {position : Nat} {items : List Value}
    {results : List α} :
    readItems read position items = .ok results ↔
      List.Forall₂ (fun item result => read item = .ok result) items results := by
  induction items generalizing position results with
  | nil =>
      rw [List.forall₂_nil_left_iff, readItems, Except.ok.injEq, eq_comm]
  | cons item rest ih =>
      rw [readItems_cons, List.forall₂_cons_left_iff]
      simp only [bind_eq_ok_iff, under_eq_ok_iff, ih, Except.ok.injEq]
      constructor
      · rintro ⟨result, first, others, later, rfl⟩
        exact ⟨result, others, first, later, rfl⟩
      · rintro ⟨result, others, first, later, rfl⟩
        exact ⟨result, first, others, later, rfl⟩

/-- The list under a key is found and then read. -/
theorem readListIn_eq (entries : Entries) (key : String) (read : Value → Reading α) :
    readListIn entries key read =
      (listIn entries key >>= fun items => under [.key key] (readItems read 0 items)) := by
  unfold readListIn
  cases listIn entries key <;> rfl

theorem readListIn_eq_ok_iff {entries : Entries} {key : String} {read : Value → Reading α}
    {results : List α} :
    readListIn entries key read = .ok results ↔
      ∃ items, itemsOf? (entries.get key) = some items ∧
        List.Forall₂ (fun item result => read item = .ok result) items results := by
  simp only [readListIn_eq, bind_eq_ok_iff, under_eq_ok_iff, listIn_eq_ok_iff, readItems_eq_ok_iff]

end

/-- A name is a text that is not empty. -/
theorem nameIn_eq_ok_iff {entries : Entries} {name : String} :
    nameIn entries = .ok name ↔ entries.get "name" = .string name ∧ name ≠ "" := by
  unfold nameIn
  cases entries.get "name" with
  | string written =>
      by_cases empty : written = ""
      · simp only [empty, if_true, refuse, Value.string.injEq]
        constructor
        · intro refused
          cases refused
        · rintro ⟨rfl, filled⟩
          exact absurd rfl filled
      · simp only [empty, if_false, Except.ok.injEq, Value.string.injEq]
        constructor
        · rintro rfl
          exact ⟨rfl, empty⟩
        · exact And.left
  | _ => simp [refuse]

/-- Members are the entries of a mapping, and there are none where nothing stands. -/
theorem members_eq_ok_iff {given : Value} {members : Entries} :
    under [.key "members"] (mappingOf (if given.isTruthy then given else .map [])) = .ok members ↔
      membersOf? given = some members := by
  rw [under_eq_ok_iff, mappingOf_eq_ok_iff, membersOf?]
  split
  · rfl
  · rfl

/-! ## Readers -/

/-- An annotation is written as its name, or as a mapping with a name and members. -/
theorem readAnnotation_eq_ok_iff {value : Value} {note : Annotation} :
    readAnnotation value = .ok note ↔
      (∃ name, value = .string name ∧ note = { name := fullName name }) ∨
        ∃ entries name members, value.entries? = some entries ∧ nameIn entries = .ok name ∧
          membersOf? (entries.get "members") = some members ∧
          readMembers members [] = .ok note.members ∧ note.name = fullName name := by
  have written (notText : ∀ name, value ≠ .string name) : readAnnotation value = .ok note ↔
      ∃ entries name members, value.entries? = some entries ∧ nameIn entries = .ok name ∧
        membersOf? (entries.get "members") = some members ∧
        readMembers members [] = .ok note.members ∧ note.name = fullName name := by
    unfold readAnnotation
    split
    · exact absurd rfl (notText _)
    · simp only [bind_eq_ok_iff, mappingOf_eq_ok_iff, members_eq_ok_iff, Except.ok.injEq]
      constructor
      · rintro ⟨entries, mapped, name, named, members, held, arguments, read, rfl⟩
        exact ⟨entries, name, members, mapped, named, held, read, rfl⟩
      · rintro ⟨entries, name, members, mapped, named, held, read, same⟩
        exact ⟨entries, mapped, name, named, members, held, note.members, read, by rw [← same]⟩
  cases value with
  | string name => simp [Value.entries?, Value.untie, readAnnotation, eq_comm]
  | _ =>
      rw [written nofun]
      simp

theorem readField_eq_ok_iff {value : Value} {field : Field} :
    readField value = .ok field ↔
      ∃ entries, value.entries? = some entries ∧ nameIn entries = .ok field.name ∧
        flagIn entries "dynamically_typed" = .ok field.isDynamic ∧
        readAnnotations entries = .ok field.annotations := by
  simp only [readField, bind_eq_ok_iff, mappingOf_eq_ok_iff, Except.ok.injEq]
  constructor
  · rintro ⟨entries, mapped, name, named, isDynamic, flagged, annotations, noted, rfl⟩
    exact ⟨entries, mapped, named, flagged, noted⟩
  · rintro ⟨entries, mapped, named, flagged, noted⟩
    exact ⟨entries, mapped, _, named, _, flagged, _, noted, rfl⟩

theorem readParameter_eq_ok_iff {value : Value} {parameter : Parameter} :
    readParameter value = .ok parameter ↔
      ∃ entries, value.entries? = some entries ∧ nameIn entries = .ok parameter.name ∧
        flagIn entries "dynamically_typed" = .ok parameter.isDynamic := by
  simp only [readParameter, bind_eq_ok_iff, mappingOf_eq_ok_iff, Except.ok.injEq]
  constructor
  · rintro ⟨entries, mapped, name, named, isDynamic, flagged, rfl⟩
    exact ⟨entries, mapped, named, flagged⟩
  · rintro ⟨entries, mapped, named, flagged⟩
    exact ⟨entries, mapped, _, named, _, flagged, rfl⟩

theorem readMethod_eq_ok_iff {value : Value} {method : Method} :
    readMethod value = .ok method ↔
      ∃ entries, value.entries? = some entries ∧
        readListIn entries "parameters" readParameter = .ok method.parameters ∧
        nameIn entries = .ok method.name ∧
        flagIn entries "dynamic_return_type" = .ok method.returnsDynamic ∧
        readAnnotations entries = .ok method.annotations := by
  simp only [readMethod, bind_eq_ok_iff, mappingOf_eq_ok_iff, Except.ok.injEq]
  constructor
  · rintro ⟨entries, mapped, parameters, listed, name, named, returnsDynamic, flagged, annotations,
      noted, rfl⟩
    exact ⟨entries, mapped, listed, named, flagged, noted⟩
  · rintro ⟨entries, mapped, listed, named, flagged, noted⟩
    exact ⟨entries, mapped, _, listed, _, named, _, flagged, _, noted, rfl⟩

/-- Reads the declared package of a class. -/
def readPackage (entries : Entries) : Reading (Option String) :=
  match entries.get "package" with
  | .null => .ok none
  | value => (textOf value).map some

/-- The package is read last. -/
theorem readClassBody_eq (entries : Entries) (name : String) :
    readClassBody entries name =
      (do
        let fields ← readListIn entries "fields" readField
        let methods ← readListIn entries "methods" readMethod
        let annotations ← readAnnotations entries
        let package ← readPackage entries
        .ok { name, annotations, fields, methods, package }) := by
  unfold readClassBody readPackage
  cases entries.get "package" with
  | null => rfl
  | _ => simp only [map_bind]

theorem readClass_eq_ok_iff {value : Value} {decl : ClassDecl} :
    readClass value = .ok decl ↔
      ∃ entries, value.entries? = some entries ∧ nameIn entries = .ok decl.name ∧
        readListIn entries "fields" readField = .ok decl.fields ∧
        readListIn entries "methods" readMethod = .ok decl.methods ∧
        readAnnotations entries = .ok decl.annotations ∧
        readPackage entries = .ok decl.package := by
  simp only [readClass, readClassBody_eq, bind_eq_ok_iff, under_eq_ok_iff, mappingOf_eq_ok_iff,
    Except.ok.injEq]
  constructor
  · rintro ⟨entries, mapped, name, named, fields, fieldsRead, methods, methodsRead, annotations,
      noted, package, packed, rfl⟩
    exact ⟨entries, mapped, named, fieldsRead, methodsRead, noted, packed⟩
  · rintro ⟨entries, mapped, named, fieldsRead, methodsRead, noted, packed⟩
    exact ⟨entries, mapped, _, named, _, fieldsRead, _, methodsRead, _, noted, _, packed, rfl⟩

theorem readUnit_eq_ok_iff {value : Value} {unit : CompilationUnit} :
    readUnit value = .ok unit ↔
      ∃ entries, value.entries? = some entries ∧ readUnitName entries = .ok unit.name ∧
        readTarget entries = .ok unit.targetDirectory ∧
        readListIn entries "classes" readClass = .ok unit.classes := by
  simp only [readUnit, bind_eq_ok_iff, mappingOf_eq_ok_iff, Except.ok.injEq]
  constructor
  · rintro ⟨entries, mapped, name, named, target, directed, classes, listed, rfl⟩
    exact ⟨entries, mapped, named, directed, listed⟩
  · rintro ⟨entries, mapped, named, directed, listed⟩
    exact ⟨entries, mapped, _, named, _, directed, _, listed, rfl⟩

/-- The units of a document are read one by one. -/
theorem readUnits_eq_ok_iff {document : Value} {units : List CompilationUnit} :
    readUnits document = .ok units ↔
      ∃ items, unitItems document = .ok items ∧
        List.Forall₂ (fun item unit => readUnit item = .ok unit) items units := by
  simp only [readUnits, bind_eq_ok_iff, readItems_eq_ok_iff]

end CompilePolicy.Descriptor

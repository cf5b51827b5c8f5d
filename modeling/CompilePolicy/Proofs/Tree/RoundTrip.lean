import CompilePolicy.Proofs.Tree.Names

/-!
# Annotations that are written and read again

An annotation that was read from a mapping has a name, which is no short one, and members with
distinct names. Such an annotation is written as a mapping that is read as the annotation, and
no other annotation is: the three forms of an argument are written apart, as null, a text and a
list of texts, and a text as a name or a member stands for itself.
-/

namespace CompilePolicy

open CompilePolicy.Document Descriptor Format

/-- An annotation that can be written so that it is read again. -/
structure Annotation.IsFull (note : Annotation) : Prop where
  named : note.name ≠ ""
  long : fullName note.name = note.name
  distinct : (note.members.map (·.1)).Nodup

namespace Descriptor

/-! ## What is read from a mapping -/

/-- The full form of a name has no other full form. -/
theorem fullName_fullName (name : String) : fullName (fullName name) = fullName name := by
  rcases fullName_ne_short name with ⟨notStatic, notDynamic⟩
  rw [fullName.eq_def (fullName name), if_neg notStatic, if_neg notDynamic]

/-- Members are read as the arguments that the entries give. -/
theorem eq_argumentsOf {entries : Entries} {members : List (String × Argument)}
    (read : readMembers entries [] = .ok members) : members = argumentsOf entries := by
  have follows := follows_readMembers "" entries []
  change Follows "" [] (argumentsOf entries) (readMembers entries []) at follows
  rw [read] at follows
  cases follows
  rfl

theorem nodup_argumentsOf (entries : Entries) : ((argumentsOf entries).map (·.1)).Nodup := by
  have names : (argumentsOf entries).map (·.1) =
      (entries.map fun entry => wordsOf entry.1).eraseDups := by
    simp [argumentsOf, Function.comp_def]
  rw [names]
  exact nodup_eraseDups _

theorem isFull_of_read {value : Value} {entries : Entries} {note : Annotation}
    (mapped : value.entries? = some entries) (read : readAnnotation value = .ok note) :
    note.IsFull := by
  rcases readAnnotation_eq_ok_iff.mp read with
    ⟨name, rfl, -⟩ | ⟨_, name, members, -, named, -, arguments, full⟩
  · cases mapped
  · constructor
    · rw [full, Ne, fullName_eq_empty_iff]
      exact (nameIn_eq_ok_iff.mp named).2
    · rw [full, fullName_fullName]
    · rw [eq_argumentsOf arguments]
      exact nodup_argumentsOf members

/-! ## What is written -/

/-- The texts of texts are those texts. -/
theorem textsOf_strings (texts : List String) : textsOf (texts.map .string) = .ok texts := by
  have each : texts? (texts.map .string) = some texts := by
    induction texts with
    | nil => rfl
    | cons text rest ih => rw [List.map_cons, texts?_cons, Value.text?_string, ih]; rfl
  rw [textsOf, each]

/-- What an argument is written as is read as the argument. -/
theorem readArgument_toValue (argument : Argument) :
    readArgument argument.toValue = .ok argument := by
  cases argument with
  | absent => rfl
  | single value => rfl
  | list items =>
      change (textsOf (items.map .string)).map Argument.list = .ok (.list items)
      rw [textsOf_strings]
      rfl

/-- Written members are read one by one: each comes after those that were read before. -/
theorem readMembers_written {members known : List (String × Argument)}
    (distinct : ((known ++ members).map (·.1)).Nodup) :
    readMembers (members.map fun member => (.string member.1, member.2.toValue)) known =
      .ok (known ++ members) := by
  induction members generalizing known with
  | nil => rw [List.append_nil]; rfl
  | cons member rest ih =>
      have new : member.1 ∉ known.map (·.1) := by
        intro listed
        rw [List.map_append, List.nodup_append] at distinct
        exact distinct.2.2 _ listed _ List.mem_cons_self rfl
      have later := @ih (known ++ [member])
        (by rwa [List.append_assoc, List.singleton_append])
      rw [List.append_assoc, List.singleton_append, ← setField_of_not_mem new member.2] at later
      rw [List.map_cons, readMembers, readArgument_toValue]
      exact later

/-- The entries of a mapping are members, also if there are none. -/
theorem membersOf?_map (entries : Entries) : membersOf? (.map entries) = some entries := by
  cases entries with
  | nil => rfl
  | cons entry rest => rfl

/-- An annotation is read from what it is written as, exactly if it has a full name and members
with distinct names. -/
theorem readAnnotation_toRecord_iff {note : Annotation} :
    readAnnotation note.toRecord = .ok note ↔ note.IsFull := by
  constructor
  · exact isFull_of_read rfl
  · rintro ⟨named, long, distinct⟩
    let written : Entries :=
      note.members.map fun member => (.string member.1, member.2.toValue)
    have members : note.toRecord =
        .map [(.string "name", .string note.name), (.string "members", .map written)] := by
      simp [Value.record, Annotation.toRecord, written]
    rw [members]
    refine readAnnotation_eq_ok_iff.mpr (.inr ⟨_, note.name, written, rfl, ?_, ?_, ?_, long.symm⟩)
    · exact nameIn_eq_ok_iff.mpr ⟨rfl, named⟩
    · exact membersOf?_map written
    · exact readMembers_written distinct

/-! ## The round trip -/

/-- An annotation that was read from a mapping, whatever its members were given, is read again
from what it is written as: with its name, and with the same members in the same order and of
the same forms. So what it is written as stays the same when it is read and written once more. -/
theorem written_annotation_is_read_back {value : Value} {entries : Entries} {note : Annotation}
    (mapped : value.entries? = some entries) (read : readAnnotation value = .ok note) :
    readAnnotation note.toRecord = .ok note ∧
      Annotation.toRecord <$> readAnnotation value = .ok note.toRecord ∧
      Annotation.toRecord <$> readAnnotation note.toRecord = .ok note.toRecord := by
  have again := readAnnotation_toRecord_iff.mpr (isFull_of_read mapped read)
  refine ⟨again, ?_, ?_⟩
  · rw [read]
    rfl
  · rw [again]
    rfl

/-- A short name, a number and its text as one member, null, a pair and a list of anything. -/
theorem written_annotation_is_read_back_at_mixed_members :
    let value : Value := .record [("name", .string "CompileStatic"), ("members", .map [
      (.int 1, .null), (.string "extensions", .list [.string "A", .null, .bool true]),
      (.string "1", .pair (.int 2) (.string "")), (.null, .string "SKIP"),
      (.bool false, .null)])]
    let note : Annotation := {
      name := compileStatic
      members := [("1", .list ["2", ""]), ("extensions", .list ["A", "None", "True"]),
        ("None", .single "SKIP"), ("False", .absent)] }
    readAnnotation value = .ok note ∧ readAnnotation note.toRecord = .ok note := by
  intro value note
  have read : readAnnotation value = .ok note := by rfl
  exact ⟨read, (written_annotation_is_read_back rfl read).1⟩

end Descriptor

end CompilePolicy

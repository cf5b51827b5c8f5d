import CompilePolicy.Proofs.Tree.Elements

/-!
# The names in an accepted descriptor

Every class, field, method and parameter of an accepted document has a name, and no annotation
keeps a short name. An annotation has a name unless it is written as the empty text: a text
alone is taken as the name whatever it is, while a name in a mapping must not be empty.
-/

namespace CompilePolicy.Descriptor

open CompilePolicy.Document Format

/-! ## Short names -/

theorem fullName_ne_short (name : String) :
    fullName name ≠ "CompileStatic" ∧ fullName name ≠ "CompileDynamic" := by
  unfold fullName
  split
  · decide
  · split
    · decide
    · constructor <;> assumption

theorem fullName_eq_empty_iff {name : String} : fullName name = "" ↔ name = "" := by
  unfold fullName
  split
  · rename_i short
    subst short
    decide
  · split
    · rename_i short
      subst short
      decide
    · rfl

/-! ## Annotations -/

/-- An annotation has the full form of the name it is written with. -/
theorem exists_fullName {value : Value} {note : Annotation}
    (read : readAnnotation value = .ok note) :
    ∃ name, note.name = fullName name ∧ (name = "" ↔ value = .string "") := by
  rcases readAnnotation_eq_ok_iff.mp read with
    ⟨name, rfl, rfl⟩ | ⟨entries, name, members, mapped, named, -, -, full⟩
  · exact ⟨name, rfl, by rw [Value.string.injEq]⟩
  · refine ⟨name, full, fun empty => ?_, ?_⟩
    · exact absurd empty (nameIn_eq_ok_iff.mp named).2
    · rintro rfl
      cases mapped

theorem name_ne_short {value : Value} {note : Annotation}
    (read : readAnnotation value = .ok note) :
    note.name ≠ "CompileStatic" ∧ note.name ≠ "CompileDynamic" := by
  rcases exists_fullName read with ⟨name, full, -⟩
  rw [full]
  exact fullName_ne_short name

/-- Only the empty text gives an annotation without a name. -/
theorem name_eq_empty_iff {value : Value} {note : Annotation}
    (read : readAnnotation value = .ok note) : note.name = "" ↔ value = .string "" := by
  rcases exists_fullName read with ⟨name, full, empty⟩
  rw [full, fullName_eq_empty_iff, empty]

/-- A mapping with a name alone is an annotation with that name, if the name is not empty. -/
theorem readAnnotation_named (name : String) :
    readAnnotation (.record [("name", .string name)]) =
      if name = "" then refuse .missingName else .ok { name := fullName name } := by
  by_cases empty : name = ""
  · subst empty
    rfl
  · rw [if_neg empty, readAnnotation_eq_ok_iff]
    refine .inr ⟨[(.string "name", .string name)], name, [], rfl, ?_, rfl, rfl, rfl⟩
    exact nameIn_eq_ok_iff.mpr ⟨rfl, empty⟩

/-! ## Classes -/

theorem mem_nodes_iff {decl : ClassDecl} {node : Node} :
    node ∈ decl.nodes ↔
      node = .ofClass decl ∨ (∃ field ∈ decl.fields, node = .ofField field) ∨
        ∃ method ∈ decl.methods, node = .ofMethod method ∨
          ∃ parameter ∈ method.parameters, node = .ofParameter parameter := by
  simp only [ClassDecl.nodes, List.mem_cons, List.mem_append, List.mem_map, List.mem_flatMap,
    eq_comm]

/-- Every node of an accepted class has a name. -/
theorem name_ne_empty {value : Value} {decl : ClassDecl} (read : readClass value = .ok decl)
    {node : Node} (isNode : node ∈ decl.nodes) : node.name ≠ "" := by
  rcases readClass_eq_ok_iff.mp read with ⟨entries, mapped, named, fields, methods, -, -⟩
  rcases mem_nodes_iff.mp isNode with rfl | ⟨field, isField, rfl⟩ | ⟨method, isMethod, below⟩
  · exact (nameIn_eq_ok_iff.mp named).2
  · rcases exists_contained .classDecl .field mapped (by decide) fields isField with ⟨item, one, -⟩
    rcases readField_eq_ok_iff.mp one with ⟨_, _, own, -⟩
    exact (nameIn_eq_ok_iff.mp own).2
  · rcases exists_contained .classDecl .method mapped (by decide) methods isMethod with
      ⟨item, one, -⟩
    rcases readMethod_eq_ok_iff.mp one with ⟨_, inside, parameters, own, -⟩
    rcases below with rfl | ⟨parameter, isParameter, rfl⟩
    · exact (nameIn_eq_ok_iff.mp own).2
    · rcases exists_contained .method .parameter inside (by decide) parameters isParameter with
        ⟨item, one, -⟩
      rcases readParameter_eq_ok_iff.mp one with ⟨_, _, own, -⟩
      exact (nameIn_eq_ok_iff.mp own).2

/-- The annotations of an element that was read from its list of annotations are annotations in
the element. -/
theorem exists_annotation (outer : Element) {whole : Value} {entries : Entries}
    {annotations : List Annotation} {note : Annotation} (mapped : whole.entries? = some entries)
    (listed : ("annotations", .note) ∈ outer.lists)
    (read : readAnnotations entries = .ok annotations) (isNote : note ∈ annotations) :
    ∃ written, readAnnotation written = .ok note ∧ Contains outer whole .note written := by
  rcases exists_contained outer .note mapped listed read isNote with ⟨written, one, inside⟩
  exact ⟨written, one, inside _ _ (.itself _ _)⟩

/-- Every annotation of a node of an accepted class is written in the class. -/
theorem exists_contains {value : Value} {decl : ClassDecl} (read : readClass value = .ok decl)
    {node : Node} (isNode : node ∈ decl.nodes) {note : Annotation}
    (isNote : note ∈ node.annotations) :
    ∃ written, readAnnotation written = .ok note ∧
      Contains .classDecl value .note written := by
  rcases readClass_eq_ok_iff.mp read with ⟨entries, mapped, -, fields, methods, annotations, -⟩
  rcases mem_nodes_iff.mp isNode with rfl | ⟨field, isField, rfl⟩ | ⟨method, isMethod, below⟩
  · exact exists_annotation .classDecl mapped (by decide) annotations isNote
  · rcases exists_contained .classDecl .field mapped (by decide) fields isField with
      ⟨item, one, inside⟩
    rcases readField_eq_ok_iff.mp one with ⟨_, mapped, -, -, annotations⟩
    rcases exists_annotation .field mapped (by decide) annotations isNote with
      ⟨written, same, within⟩
    exact ⟨written, same, inside _ _ within⟩
  · rcases exists_contained .classDecl .method mapped (by decide) methods isMethod with
      ⟨item, one, inside⟩
    rcases below with rfl | ⟨parameter, -, rfl⟩
    · rcases readMethod_eq_ok_iff.mp one with ⟨_, mapped, -, -, -, annotations⟩
      rcases exists_annotation .method mapped (by decide) annotations isNote with
        ⟨written, same, within⟩
      exact ⟨written, same, inside _ _ within⟩
    · cases isNote

/-- An annotation in a list of annotations gives one of the annotations that are read. -/
theorem exists_note {entries : Entries} {items : List Value} {item written : Value}
    {annotations : List Annotation} (read : readAnnotations entries = .ok annotations)
    (held : (entries.get "annotations").items? = some items) (isItem : item ∈ items)
    (deeper : Contains .note item .note written) :
    ∃ note ∈ annotations, readAnnotation written = .ok note := by
  cases deeper with
  | itself => exact exists_read .note read held isItem
  | inside _ listed => cases listed

/-- Every annotation that is written in an accepted class is one of a node of the class. -/
theorem exists_node {value written : Value} {decl : ClassDecl} (read : readClass value = .ok decl)
    (contains : Contains .classDecl value .note written) :
    ∃ node ∈ decl.nodes, ∃ note ∈ node.annotations, readAnnotation written = .ok note := by
  rcases readClass_eq_ok_iff.mp read with ⟨entries, own, -, fields, methods, annotations, -⟩
  cases contains with
  | inside mapped listed held isItem deeper =>
      cases Option.some.inj (own.symm.trans mapped)
      rcases Element.mem_lists_classDecl.mp listed with ⟨rfl, rfl⟩ | ⟨rfl, rfl⟩ | ⟨rfl, rfl⟩
      · rcases exists_read .field fields held isItem with ⟨field, isField, one⟩
        rcases readField_eq_ok_iff.mp one with ⟨_, own, -, -, annotations⟩
        cases deeper with
        | inside mapped listed held isItem deeper =>
            cases Option.some.inj (own.symm.trans mapped)
            cases List.mem_singleton.mp listed
            rcases exists_note annotations held isItem deeper with ⟨note, isNote, same⟩
            exact ⟨.ofField field, mem_nodes_iff.mpr (.inr (.inl ⟨field, isField, rfl⟩)), note,
              isNote, same⟩
      · rcases exists_read .method methods held isItem with ⟨method, isMethod, one⟩
        rcases readMethod_eq_ok_iff.mp one with ⟨_, own, -, -, -, annotations⟩
        cases deeper with
        | inside mapped listed held isItem deeper =>
            cases Option.some.inj (own.symm.trans mapped)
            rcases Element.mem_lists_method.mp listed with ⟨rfl, rfl⟩ | ⟨rfl, rfl⟩
            · cases deeper with
              | inside _ listed => cases listed
            · rcases exists_note annotations held isItem deeper with ⟨note, isNote, same⟩
              exact ⟨.ofMethod method,
                mem_nodes_iff.mpr (.inr (.inr ⟨method, isMethod, .inl rfl⟩)), note, isNote, same⟩
      · rcases exists_note annotations held isItem deeper with ⟨note, isNote, same⟩
        exact ⟨.ofClass decl, mem_nodes_iff.mpr (.inl rfl), note, isNote, same⟩

/-! ## Documents -/

/-- Every class of an accepted document is read from a class in it. -/
theorem exists_class {document : Value} {units : List CompilationUnit}
    (read : readUnits document = .ok units) {unit : CompilationUnit} (isUnit : unit ∈ units)
    {decl : ClassDecl} (isClass : decl ∈ unit.classes) :
    ∃ value, readClass value = .ok decl ∧
      ∀ inner other, Contains .classDecl value inner other → IsIn document inner other := by
  rcases readUnits_eq_ok_iff.mp read with ⟨items, listed, all⟩
  rcases exists_item all isUnit with ⟨item, isItem, one⟩
  rcases readUnit_eq_ok_iff.mp one with ⟨entries, mapped, -, -, classes⟩
  rcases exists_contained .unit .classDecl mapped (by decide) classes isClass with
    ⟨value, same, inside⟩
  exact ⟨value, same, fun inner other deeper =>
    ⟨items, listed, item, isItem, inside inner other deeper⟩⟩

/-- Every annotation that is written in an accepted document is one of a node of it. -/
theorem exists_node_of_isIn {document written : Value} {units : List CompilationUnit}
    (read : readUnits document = .ok units) (isIn : IsIn document .note written) :
    ∃ unit ∈ units, ∃ decl ∈ unit.classes, ∃ node ∈ decl.nodes, ∃ note ∈ node.annotations,
      readAnnotation written = .ok note := by
  rcases readUnits_eq_ok_iff.mp read with ⟨items, listed, all⟩
  rcases isIn with ⟨others, same, item, isItem, contains⟩
  cases Except.ok.inj (listed.symm.trans same)
  rcases exists_result all isItem with ⟨unit, isUnit, one⟩
  rcases readUnit_eq_ok_iff.mp one with ⟨entries, own, -, -, classes⟩
  cases contains with
  | inside mapped listed held isItem deeper =>
      cases Option.some.inj (own.symm.trans mapped)
      cases List.mem_singleton.mp listed
      rcases exists_read .classDecl classes held isItem with ⟨decl, isClass, same⟩
      exact ⟨unit, isUnit, decl, isClass, exists_node same deeper⟩

/-- In an accepted document every class, field, method and parameter has a name, and no
annotation keeps a short name. An annotation has a name too, unless some annotation in the
document is written as the empty text. Written as a text, an annotation is always accepted;
the mapping with the text as its name is accepted unless the text is empty, and then gives the
same annotation. -/
theorem accepted_names_are_full_but_for_empty_text {document : Value}
    {units : List CompilationUnit} (read : readUnits document = .ok units) (name : String) :
    (∀ unit ∈ units, ∀ decl ∈ unit.classes, ∀ node ∈ decl.nodes, node.name ≠ "" ∧
      ∀ note ∈ node.annotations,
        note.name ≠ "CompileStatic" ∧ note.name ≠ "CompileDynamic") ∧
    ((∃ unit ∈ units, ∃ decl ∈ unit.classes, ∃ node ∈ decl.nodes,
        ∃ note ∈ node.annotations, note.name = "") ↔
      IsIn document .note (.string "")) ∧
    readAnnotation (.string name) = .ok { name := fullName name } ∧
    readAnnotation (.record [("name", .string name)]) =
      if name = "" then refuse .missingName else .ok { name := fullName name } := by
  refine ⟨?_, ?_, rfl, readAnnotation_named name⟩
  · intro unit isUnit decl isClass node isNode
    rcases exists_class read isUnit isClass with ⟨value, same, -⟩
    refine ⟨name_ne_empty same isNode, fun note isNote => ?_⟩
    rcases exists_contains same isNode isNote with ⟨written, noted, -⟩
    exact name_ne_short noted
  · constructor
    · rintro ⟨unit, isUnit, decl, isClass, node, isNode, note, isNote, empty⟩
      rcases exists_class read isUnit isClass with ⟨value, same, inside⟩
      rcases exists_contains same isNode isNote with ⟨written, noted, within⟩
      cases (name_eq_empty_iff noted).mp empty
      exact inside _ _ within
    · intro isIn
      rcases exists_node_of_isIn read isIn with
        ⟨unit, isUnit, decl, isClass, node, isNode, note, isNote, noted⟩
      exact ⟨unit, isUnit, decl, isClass, node, isNode, note, isNote,
        (name_eq_empty_iff noted).mpr rfl⟩

/-- A class with two annotations, of which one is the empty text. -/
theorem accepted_names_are_full_but_for_empty_text_at_a_class :
    let document : Value := .record [("classes", .list [.record [("name", .string "a.A"),
      ("annotations", .list [.string "CompileStatic", .string ""])]])]
    let decl : ClassDecl :=
      { name := "a.A", annotations := [{ name := compileStatic }, { name := "" }] }
    readUnits document = .ok [{ classes := [decl] }] ∧
      (∀ node ∈ decl.nodes, node.name ≠ "" ∧ ∀ note ∈ node.annotations,
        note.name ≠ "CompileStatic" ∧ note.name ≠ "CompileDynamic") ∧
      IsIn document .note (.string "") := by
  intro document decl
  have read : readUnits document = .ok [{ classes := [decl] }] := rfl
  rcases accepted_names_are_full_but_for_empty_text read "" with ⟨named, empty, -, -⟩
  refine ⟨read, named _ (List.mem_singleton_self _) decl (List.mem_singleton_self _), ?_⟩
  rw [← empty]
  refine ⟨_, List.mem_singleton_self _, decl, List.mem_singleton_self _, .ofClass decl, ?_,
    { name := "" }, ?_, rfl⟩
  · exact List.mem_cons_self
  · exact List.mem_cons_of_mem _ (List.mem_singleton_self _)

/-- The empty text is an annotation, but a mapping with the empty text for its name is not. -/
theorem empty_text_is_accepted_as_annotation :
    readAnnotation (.string "") = .ok { name := "" } ∧
      readAnnotation (.record [("name", .string "")]) = .error ⟨[], .missingName⟩ := by
  constructor
  · rfl
  · rfl

end CompilePolicy.Descriptor

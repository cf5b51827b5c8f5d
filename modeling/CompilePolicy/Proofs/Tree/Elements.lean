import CompilePolicy.Proofs.Tree.Acceptance

/-!
# The elements of a descriptor

A unit, a class, a field, a method, a parameter and an annotation are the elements of a
descriptor. Each is described by a mapping, some keys of which hold lists of further elements,
so the elements of a unit form a tree. An element that is read has all elements in it read.
-/

namespace CompilePolicy.Descriptor

open CompilePolicy.Document Format

/-- The kinds of elements. -/
inductive Element where
  | unit
  | classDecl
  | field
  | method
  | parameter
  | note
deriving DecidableEq, Repr

namespace Element

/-- What an element is read as. -/
def Result : Element → Type
  | unit => CompilationUnit
  | classDecl => ClassDecl
  | field => Field
  | method => Method
  | parameter => Parameter
  | note => Annotation

/-- The reader of an element. -/
def read : (element : Element) → Value → Reading element.Result
  | unit => readUnit
  | classDecl => readClass
  | field => readField
  | method => readMethod
  | parameter => readParameter
  | note => readAnnotation

/-- The keys that hold lists of elements, with the elements that they hold. -/
def lists : Element → List (String × Element)
  | unit => [("classes", classDecl)]
  | classDecl => [("fields", field), ("methods", method), ("annotations", note)]
  | field => [("annotations", note)]
  | method => [("parameters", parameter), ("annotations", note)]
  | parameter => []
  | note => []

theorem mem_lists_classDecl {key : String} {child : Element} :
    (key, child) ∈ classDecl.lists ↔
      key = "fields" ∧ child = field ∨ key = "methods" ∧ child = method ∨
        key = "annotations" ∧ child = note := by
  simp [lists]

theorem mem_lists_method {key : String} {child : Element} :
    (key, child) ∈ method.lists ↔
      key = "parameters" ∧ child = parameter ∨ key = "annotations" ∧ child = note := by
  simp [lists]

/-- Reading gives the element. -/
def Accepts (element : Element) (value : Value) : Prop :=
  ∃ result, element.read value = .ok result

end Element

/-- A value describes an element inside the element that another value describes, or is that
value. -/
inductive Contains : Element → Value → Element → Value → Prop
  | itself (element : Element) (value : Value) : Contains element value element value
  | inside {outer child inner : Element} {whole item value : Value} {entries : Entries}
      {key : String} {items : List Value} (mapped : whole.entries? = some entries)
      (listed : (key, child) ∈ outer.lists) (held : (entries.get key).items? = some items)
      (isItem : item ∈ items) (deeper : Contains child item inner value) :
      Contains outer whole inner value

/-- A value describes an element of a document. -/
def IsIn (document : Value) (element : Element) (value : Value) : Prop :=
  ∃ items, unitItems document = .ok items ∧ ∃ item ∈ items, Contains .unit item element value

/-! ## Lists of results -/

section

variable {α β : Type} {related : α → β → Prop} {items : List α} {results : List β}

theorem exists_result (all : List.Forall₂ related items results) {item : α}
    (isItem : item ∈ items) : ∃ result ∈ results, related item result := by
  induction all with
  | nil => cases isItem
  | @cons first result rest others one _ ih =>
      rcases List.mem_cons.mp isItem with rfl | later
      · exact ⟨result, List.mem_cons_self, one⟩
      · rcases ih later with ⟨other, listed, same⟩
        exact ⟨other, List.mem_cons_of_mem result listed, same⟩

theorem exists_item (all : List.Forall₂ related items results) {result : β}
    (isResult : result ∈ results) : ∃ item ∈ items, related item result :=
  exists_result all.flip isResult

end

/-! ## Accepted elements -/

/-- A list that holds something is where a list is expected. -/
theorem itemsOf?_of_items {value : Value} {item : Value} {items : List Value}
    (held : value.items? = some items) (isItem : item ∈ items) : itemsOf? value = some items := by
  have something : value.isTruthy = true := by
    unfold Value.items? at held
    unfold Value.isTruthy
    split at held
    · cases held
      cases items with
      | nil => cases isItem
      | cons first rest => simp [*]
    · cases held
  rw [itemsOf?, if_pos something, held]

/-- Where a list is expected and something is in it, there is a list. -/
theorem items_of_itemsOf? {value : Value} {item : Value} {items : List Value}
    (expected : itemsOf? value = some items) (isItem : item ∈ items) :
    value.items? = some items := by
  unfold itemsOf? at expected
  split at expected
  · exact expected
  · cases expected
    cases isItem

/-- What a list of elements gives is read from its items. -/
theorem accepts_items (inner : Element) {entries : Entries} {key : String}
    {results : List inner.Result} (read : readListIn entries key inner.read = .ok results) :
    ∃ items, itemsOf? (entries.get key) = some items ∧ ∀ item ∈ items, inner.Accepts item := by
  rcases readListIn_eq_ok_iff.mp read with ⟨items, held, all⟩
  refine ⟨items, held, fun item isItem => ?_⟩
  rcases exists_result all isItem with ⟨result, -, one⟩
  exact ⟨result, one⟩

/-- Every list of an accepted element is a list, or nothing stands for it, and its items are
accepted. -/
theorem Element.Accepts.lists {element child : Element} {value : Value} {entries : Entries}
    {key : String} (accepts : element.Accepts value) (mapped : value.entries? = some entries)
    (listed : (key, child) ∈ element.lists) :
    ∃ items, itemsOf? (entries.get key) = some items ∧ ∀ item ∈ items, child.Accepts item := by
  rcases accepts with ⟨result, read⟩
  cases element with
  | unit =>
      rcases readUnit_eq_ok_iff.mp read with ⟨others, same, -, -, classes⟩
      cases Option.some.inj (mapped.symm.trans same)
      rcases List.mem_singleton.mp listed
      exact accepts_items .classDecl classes
  | classDecl =>
      rcases readClass_eq_ok_iff.mp read with ⟨others, same, -, fields, methods, annotations, -⟩
      cases Option.some.inj (mapped.symm.trans same)
      rcases Element.mem_lists_classDecl.mp listed with ⟨rfl, rfl⟩ | ⟨rfl, rfl⟩ | ⟨rfl, rfl⟩
      · exact accepts_items .field fields
      · exact accepts_items .method methods
      · exact accepts_items .note annotations
  | field =>
      rcases readField_eq_ok_iff.mp read with ⟨others, same, -, -, annotations⟩
      cases Option.some.inj (mapped.symm.trans same)
      rcases List.mem_singleton.mp listed
      exact accepts_items .note annotations
  | method =>
      rcases readMethod_eq_ok_iff.mp read with ⟨others, same, parameters, -, -, annotations⟩
      cases Option.some.inj (mapped.symm.trans same)
      rcases Element.mem_lists_method.mp listed with ⟨rfl, rfl⟩ | ⟨rfl, rfl⟩
      · exact accepts_items .parameter parameters
      · exact accepts_items .note annotations
  | parameter => cases listed
  | note => cases listed

/-- The members of an accepted annotation are a mapping, or nothing stands for them. -/
theorem Element.Accepts.members {value : Value} {entries : Entries}
    (accepts : Element.note.Accepts value) (mapped : value.entries? = some entries) :
    ∃ members, membersOf? (entries.get "members") = some members := by
  rcases accepts with ⟨note, read⟩
  rcases readAnnotation_eq_ok_iff.mp read with
    ⟨name, rfl, -⟩ | ⟨others, name, members, same, -, held, -, -⟩
  · cases mapped
  · cases Option.some.inj (mapped.symm.trans same)
    exact ⟨members, held⟩

/-- An accepted element consists of accepted elements. -/
theorem Element.Accepts.contained {outer inner : Element} {whole value : Value}
    (contains : Contains outer whole inner value) (accepts : outer.Accepts whole) :
    inner.Accepts value := by
  induction contains with
  | itself => exact accepts
  | inside mapped listed held isItem _ ih =>
      rcases accepts.lists mapped listed with ⟨items, expected, all⟩
      rw [itemsOf?_of_items held isItem] at expected
      cases expected
      exact ih (all _ isItem)

/-- A result of a list was read from an element in the list, and what is in that element is in
the whole. -/
theorem exists_contained (outer child : Element) {whole : Value} {entries : Entries} {key : String}
    {results : List child.Result} {result : child.Result} (mapped : whole.entries? = some entries)
    (listed : (key, child) ∈ outer.lists)
    (read : readListIn entries key child.read = .ok results) (isResult : result ∈ results) :
    ∃ item, child.read item = .ok result ∧
      ∀ inner value, Contains child item inner value → Contains outer whole inner value := by
  rcases readListIn_eq_ok_iff.mp read with ⟨items, expected, all⟩
  rcases exists_item all isResult with ⟨item, isItem, one⟩
  refine ⟨item, one, fun inner value deeper => ?_⟩
  exact .inside mapped listed (items_of_itemsOf? expected isItem) isItem deeper

/-- An element in a list gives a result of the list. -/
theorem exists_read (child : Element) {entries : Entries} {key : String} {items : List Value}
    {item : Value} {results : List child.Result}
    (read : readListIn entries key child.read = .ok results)
    (held : (entries.get key).items? = some items) (isItem : item ∈ items) :
    ∃ result ∈ results, child.read item = .ok result := by
  rcases readListIn_eq_ok_iff.mp read with ⟨others, expected, all⟩
  rw [itemsOf?_of_items held isItem] at expected
  cases expected
  exact exists_result all isItem

end CompilePolicy.Descriptor

import CompilePolicy.Proofs.Tree.Elements

/-!
# Changes inside a descriptor

A descriptor is changed at one place by changing the mapping of one element in it; the lists
around that element stay the same but for the one item. The reader of an element asks a mapping
only for the values under the keys of the element, so mappings that agree on these are read
alike, and a change that keeps the reading of one element keeps that of every element around it.
-/

namespace CompilePolicy.Descriptor

open CompilePolicy.Document Format

/-! ## Putting values under keys -/

/-- The entries with another value under a text key. A key that is not there is not added. -/
def put (entries : Entries) (key : String) (value : Value) : Entries :=
  entries.map fun entry => if entry.1.string? = some key then (entry.1, value) else entry

theorem get?_put (entries : Entries) (key other : String) (value : Value) :
    (put entries key value).get? other =
      if other = key then (entries.get? other).map fun _ => value else entries.get? other := by
  have sameKey : ∀ entry : Value × Value,
      (if entry.1.string? = some key then (entry.1, value) else entry).1 = entry.1 := by
    intro entry
    split <;> rfl
  unfold Entries.get? put
  simp only [List.find?_map, Function.comp_def, sameKey, Option.map_map]
  cases found : entries.find? fun entry => entry.1.string? == some other with
  | none => simp
  | some entry =>
      have own : entry.1.string? = some other := by simpa using List.find?_some found
      by_cases same : other = key
      · simp [own, same]
      · simp [own, same]

theorem get_put_of_ne {entries : Entries} {key other : String} (value : Value)
    (different : other ≠ key) : (put entries key value).get other = entries.get other := by
  rw [Entries.get, get?_put, if_neg different, Entries.get]

theorem get_put_self {entries : Entries} {key : String} (value : Value)
    (isThere : entries.get key ≠ .null) : (put entries key value).get key = value := by
  unfold Entries.get at isThere
  rw [Entries.get, get?_put, if_pos rfl]
  cases found : entries.get? key with
  | none =>
      rw [found] at isThere
      exact absurd rfl isThere
  | some current => rfl

theorem get_put_null (entries : Entries) (key : String) :
    (put entries key .null).get key = .null := by
  rw [Entries.get, get?_put, if_pos rfl]
  cases entries.get? key <;> rfl

/-! ## What a reader asks for -/

theorem nameIn_congr {entries others : Entries}
    (same : entries.get "name" = others.get "name") : nameIn entries = nameIn others := by
  unfold nameIn
  rw [same]

theorem flagIn_congr {entries others : Entries} {key : String}
    (same : entries.get key = others.get key) : flagIn entries key = flagIn others key := by
  unfold flagIn
  rw [same]

theorem readPackage_congr {entries others : Entries}
    (same : entries.get "package" = others.get "package") :
    readPackage entries = readPackage others := by
  unfold readPackage
  rw [same]

theorem readTarget_congr {entries others : Entries}
    (same : entries.get "target_directory" = others.get "target_directory") :
    readTarget entries = readTarget others := by
  unfold readTarget
  rw [same]

theorem readListIn_congr {α : Type} {entries others : Entries} {key : String}
    (same : entries.get key = others.get key) (read : Value → Reading α) :
    readListIn entries key read = readListIn others key read := by
  unfold readListIn listIn
  rw [same]

/-- The value that the members of an annotation are taken from. -/
def membersGiven (entries : Entries) : Value :=
  if (entries.get "members").isTruthy then entries.get "members" else .map []

/-- Reads an annotation from its mapping. -/
def readNote (entries : Entries) : Reading Annotation := do
  let name ← nameIn entries
  let members ← under [.key "members"] (mappingOf (membersGiven entries))
  let arguments ← readMembers members []
  .ok { name := fullName name, members := arguments }

theorem readAnnotation_eq {value : Value} {entries : Entries}
    (mapped : value.entries? = some entries) : readAnnotation value = readNote entries := by
  have notText : ∀ name, value ≠ .string name := by
    rintro name rfl
    cases mapped
  unfold readAnnotation
  split
  · exact absurd rfl (notText _)
  · rw [mappingOf_eq_ok_iff.mpr mapped]
    rfl

/-- The keys that hold neither lists nor members. The name of a unit is not among them, because
a missing one is not the same as null. -/
def Element.scalars : Element → List String
  | unit => ["target_directory"]
  | classDecl => ["name", "package"]
  | field => ["name", "dynamically_typed"]
  | method => ["name", "dynamic_return_type"]
  | parameter => ["name", "dynamically_typed"]
  | note => ["name"]

/-- Two mappings give the same for everything that the reader of an element asks for. -/
structure Agree (element : Element) (entries others : Entries) : Prop where
  scalars : ∀ key ∈ element.scalars, entries.get key = others.get key
  lists : ∀ key child, (key, child) ∈ element.lists →
    readListIn entries key child.read = readListIn others key child.read
  members : element = .note → membersGiven entries = membersGiven others
  unitName : element = .unit → readUnitName entries = readUnitName others

/-- An element is read alike from mappings that agree. -/
theorem Agree.read_eq {element : Element} {entries others : Entries}
    (agree : Agree element entries others) {whole other : Value}
    (mapped : whole.entries? = some entries) (mappedToo : other.entries? = some others) :
    element.read whole = element.read other := by
  have scalar := agree.scalars
  have list := agree.lists
  have one := mappingOf_eq_ok_iff.mpr mapped
  have two := mappingOf_eq_ok_iff.mpr mappedToo
  cases element with
  | unit =>
      have classes :
          readListIn entries "classes" readClass = readListIn others "classes" readClass :=
        list "classes" .classDecl (by decide)
      change readUnit whole = readUnit other
      unfold readUnit
      rw [one, two]
      change (readUnitName entries >>= _) = (readUnitName others >>= _)
      rw [agree.unitName rfl, readTarget_congr (scalar "target_directory" (by decide)), classes]
  | classDecl =>
      have fields : readListIn entries "fields" readField = readListIn others "fields" readField :=
        list "fields" .field (by decide)
      have methods :
          readListIn entries "methods" readMethod = readListIn others "methods" readMethod :=
        list "methods" .method (by decide)
      have annotations : readAnnotations entries = readAnnotations others :=
        list "annotations" .note (by decide)
      change readClass whole = readClass other
      unfold readClass
      rw [one, two]
      change (nameIn entries >>= _) = (nameIn others >>= _)
      simp only [nameIn_congr (scalar "name" (by decide)), readClassBody_eq, fields, methods,
        annotations, readPackage_congr (scalar "package" (by decide))]
  | field =>
      have annotations : readAnnotations entries = readAnnotations others :=
        list "annotations" .note (by decide)
      change readField whole = readField other
      unfold readField
      rw [one, two]
      change (nameIn entries >>= _) = (nameIn others >>= _)
      rw [nameIn_congr (scalar "name" (by decide)),
        flagIn_congr (scalar "dynamically_typed" (by decide)), annotations]
  | method =>
      have parameters : readListIn entries "parameters" readParameter =
          readListIn others "parameters" readParameter :=
        list "parameters" .parameter (by decide)
      have annotations : readAnnotations entries = readAnnotations others :=
        list "annotations" .note (by decide)
      change readMethod whole = readMethod other
      unfold readMethod
      rw [one, two]
      change (readListIn entries _ _ >>= _) = (readListIn others _ _ >>= _)
      rw [parameters, nameIn_congr (scalar "name" (by decide)),
        flagIn_congr (scalar "dynamic_return_type" (by decide)), annotations]
  | parameter =>
      change readParameter whole = readParameter other
      unfold readParameter
      rw [one, two]
      change (nameIn entries >>= _) = (nameIn others >>= _)
      rw [nameIn_congr (scalar "name" (by decide)),
        flagIn_congr (scalar "dynamically_typed" (by decide))]
  | note =>
      change readAnnotation whole = readAnnotation other
      rw [readAnnotation_eq mapped, readAnnotation_eq mappedToo, readNote, readNote,
        nameIn_congr (scalar "name" (by decide)), agree.members rfl]

/-! ## Changes -/

/-- The mapping of one element is changed: the element's own, or that of an element in one of its
lists. -/
inductive Edited (change : Element → Entries → Entries → Prop) : Element → Value → Value → Prop
  | here {element : Element} {whole : Value} {entries others : Entries}
      (mapped : whole.entries? = some entries) (changed : change element entries others) :
      Edited change element whole (.map others)
  | inside {outer child : Element} {whole item other : Value} {entries : Entries} {key : String}
      {before after : List Value} (mapped : whole.entries? = some entries)
      (listed : (key, child) ∈ outer.lists)
      (held : (entries.get key).items? = some (before ++ item :: after))
      (edited : Edited change child item other) :
      Edited change outer whole (.map (put entries key (.list (before ++ other :: after))))

theorem Element.scalar_ne_list {element child : Element} {scalar key : String}
    (isScalar : scalar ∈ element.scalars) (listed : (key, child) ∈ element.lists) :
    scalar ≠ key := by
  have apart : ∀ scalar ∈ element.scalars, ∀ entry ∈ element.lists, scalar ≠ entry.1 := by
    cases element <;> decide
  exact apart scalar isScalar (key, child) listed

theorem Element.lists_unique {element child other : Element} {key : String}
    (listed : (key, child) ∈ element.lists) (listedToo : (key, other) ∈ element.lists) :
    child = other := by
  have unique : ∀ first ∈ element.lists, ∀ second ∈ element.lists, first.1 = second.1 →
      first.2 = second.2 := by
    cases element <;> decide
  exact unique (key, child) listed (key, other) listedToo rfl

/-- An item can be put in the place of one that is read alike. -/
theorem readItems_replace {α : Type} {read : Value → Reading α} {item other : Value}
    (same : read item = read other) (before after : List Value) (position : Nat) :
    readItems read position (before ++ item :: after) =
      readItems read position (before ++ other :: after) := by
  induction before generalizing position with
  | nil => rw [List.nil_append, List.nil_append, readItems_cons, readItems_cons, same]
  | cons first rest ih =>
      rw [List.cons_append, List.cons_append, readItems_cons, readItems_cons, ih]

/-- A list of elements can be put in the place of one that is read alike. -/
theorem readListIn_put {α : Type} {read : Value → Reading α} {entries : Entries} {key : String}
    {item other : Value} {before after : List Value}
    (held : (entries.get key).items? = some (before ++ item :: after))
    (same : read item = read other) :
    readListIn (put entries key (.list (before ++ other :: after))) key read =
      readListIn entries key read := by
  have isThere : entries.get key ≠ .null := by
    intro missing
    rw [missing] at held
    cases held
  have old : listIn entries key = .ok (before ++ item :: after) :=
    listIn_eq_ok_iff.mpr (itemsOf?_of_items held List.mem_append_cons_self)
  have new : listIn (put entries key (.list (before ++ other :: after))) key =
      .ok (before ++ other :: after) := by
    rw [listIn_eq_ok_iff, get_put_self _ isThere]
    exact itemsOf?_of_items rfl List.mem_append_cons_self
  rw [readListIn_eq, readListIn_eq, old, new]
  exact congrArg (under [.key key]) (readItems_replace same before after 0).symm

/-- Mappings agree if they differ in one list only and it is read alike. -/
theorem agree_put_list {outer child : Element} {entries : Entries} {key : String} {value : Value}
    (listed : (key, child) ∈ outer.lists)
    (same : readListIn (put entries key value) key child.read =
      readListIn entries key child.read) :
    Agree outer entries (put entries key value) where
  scalars scalar isScalar := (get_put_of_ne _ (Element.scalar_ne_list isScalar listed)).symm
  lists another inner listedToo := by
    by_cases own : another = key
    · subst own
      cases Element.lists_unique listed listedToo
      exact same.symm
    · exact readListIn_congr (get_put_of_ne _ own).symm inner.read
  members isNote := by
    subst isNote
    cases listed
  unitName isUnit := by
    subst isUnit
    cases List.mem_singleton.mp listed
    unfold readUnitName
    rw [get?_put, if_neg (by decide)]

/-- Mappings agree if they differ in one item of a list and it is read alike. -/
theorem agree_put_item {outer child : Element} {entries : Entries} {key : String}
    {item other : Value} {before after : List Value} (listed : (key, child) ∈ outer.lists)
    (held : (entries.get key).items? = some (before ++ item :: after))
    (same : child.read item = child.read other) :
    Agree outer entries (put entries key (.list (before ++ other :: after))) :=
  agree_put_list listed (readListIn_put held same)

theorem Element.ne_unit_of_listed {outer child : Element} {key : String}
    (listed : (key, child) ∈ outer.lists) : child ≠ .unit := by
  have inner : ∀ entry ∈ outer.lists, entry.2 ≠ .unit := by
    cases outer <;> decide
  exact inner (key, child) listed

section

variable {change : Element → Entries → Entries → Prop}

/-- A change that keeps the reading of the changed element keeps the reading of the elements
around it. -/
theorem Edited.read_eq
    (keeps : ∀ element, element ≠ .unit → ∀ entries others, change element entries others →
      Agree element entries others)
    {element : Element} {whole other : Value} (edited : Edited change element whole other)
    (isInner : element ≠ .unit) : element.read whole = element.read other := by
  induction edited with
  | here mapped changed => exact (keeps _ isInner _ _ changed).read_eq mapped rfl
  | inside mapped listed held _ ih =>
      have same := ih (Element.ne_unit_of_listed listed)
      exact (agree_put_item listed held same).read_eq mapped rfl

/-- A change in a unit is one of the unit's own mapping, or keeps what the reader of the unit asks
for. -/
theorem Edited.of_unit
    (keeps : ∀ element, element ≠ .unit → ∀ entries others, change element entries others →
      Agree element entries others)
    {whole other : Value} (edited : Edited change .unit whole other) :
    ∃ entries others : Entries, whole.entries? = some entries ∧ other = .map others ∧
      (change .unit entries others ∨
        Agree .unit entries others ∧ others.get? "name" = entries.get? "name") := by
  cases edited with
  | here mapped changed => exact ⟨_, _, mapped, rfl, .inl changed⟩
  | inside mapped listed held edited =>
      have same := edited.read_eq keeps (Element.ne_unit_of_listed listed)
      have agree := agree_put_item listed held same
      cases List.mem_singleton.mp listed
      refine ⟨_, _, mapped, rfl, .inr ⟨agree, ?_⟩⟩
      rw [get?_put, if_neg (by decide)]

end

end CompilePolicy.Descriptor

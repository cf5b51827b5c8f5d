import CompilePolicy.Proofs.Document.LongNumber
import CompilePolicy.Tree.Descriptor

/-!
# What ends the reading of a descriptor

Reading ends at a violation of the format or for want of digits. The second happens
only in a document that holds a whole number with too many digits, because only such
a number has no text. This is shown for each reader from the readers it is made of.
-/

namespace CompilePolicy.Descriptor

open CompilePolicy.Document

/-! ## Problems of readings -/

/-- Every problem that a reading can end with has a property. -/
def FailsOnly {α : Type} (Allowed : Problem → Prop) (reading : Reading α) : Prop :=
  ∀ fault, reading = .error fault → Allowed fault.problem

section

variable {α β : Type} {Allowed Other : Problem → Prop}

theorem failsOnly_ok (value : α) : FailsOnly Allowed (.ok value : Reading α) := by
  intro fault failed
  cases failed

theorem failsOnly_refuse {problem : Problem} (allowed : Allowed problem) :
    FailsOnly Allowed (refuse problem : Reading α) := by
  intro fault failed
  cases failed
  exact allowed

theorem FailsOnly.mono {reading : Reading α} (fails : FailsOnly Allowed reading)
    (weaker : ∀ problem, Allowed problem → Other problem) : FailsOnly Other reading :=
  fun fault failed => weaker fault.problem (fails fault failed)

theorem FailsOnly.bind {reading : Reading α} {next : α → Reading β}
    (fails : FailsOnly Allowed reading)
    (later : ∀ value, reading = .ok value → FailsOnly Allowed (next value)) :
    FailsOnly Allowed (reading >>= next) := by
  intro fault failed
  cases read : reading with
  | error first =>
      rw [read] at failed
      cases failed
      exact fails _ read
  | ok value =>
      rw [read] at failed
      exact later value read fault failed

theorem FailsOnly.under {reading : Reading α} (fails : FailsOnly Allowed reading)
    (crumbs : List Crumb) : FailsOnly Allowed (under crumbs reading) := by
  intro fault failed
  cases read : reading with
  | error inner =>
      rw [read] at failed
      cases failed
      exact fails inner read
  | ok value =>
      rw [read] at failed
      cases failed

theorem FailsOnly.map {reading : Reading α} (fails : FailsOnly Allowed reading) (f : α → β) :
    FailsOnly Allowed (reading.map f) := by
  intro fault failed
  cases read : reading with
  | error first =>
      rw [read] at failed
      cases failed
      exact fails _ read
  | ok value =>
      rw [read] at failed
      cases failed

theorem failsOnly_readItems {read : Value → Reading α} {items : List Value}
    (fails : ∀ item ∈ items, FailsOnly Allowed (read item)) (position : Nat) :
    FailsOnly Allowed (readItems read position items) := by
  induction items generalizing position with
  | nil => exact failsOnly_ok []
  | cons item rest ih =>
      rcases List.forall_mem_cons.mp fails with ⟨first, others⟩
      intro fault failed
      unfold readItems at failed
      split at failed
      · rename_i ended
        cases failed
        exact first.under _ _ ended
      · split at failed
        · rename_i ended
          cases failed
          exact ih others (position + 1) _ ended
        · cases failed

end

/-! ## Readers -/

/-- Reading ends for want of digits only where a value holds a long number. -/
def IsLongIn (value : Value) (problem : Problem) : Prop :=
  problem = .tooManyDigits → HoldsLong value

/-- Reading ends for want of digits only where entries hold a long number. -/
def IsLongAmong (entries : Entries) (problem : Problem) : Prop :=
  problem = .tooManyDigits → HoldLong entries

theorem failsOnly_textOf (value : Value) : FailsOnly (IsLongIn value) (textOf value) := by
  unfold textOf
  split
  · exact failsOnly_ok _
  · rename_i textless
    exact failsOnly_refuse fun _ => holdsLong_of_textless textless

theorem failsOnly_textsOf {value : Value} {values : List Value}
    (inside : ∀ item ∈ values, HoldsLong item → HoldsLong value) :
    FailsOnly (IsLongIn value) (textsOf values) := by
  unfold textsOf
  split
  · exact failsOnly_ok _
  · rename_i textless
    rcases holdsLong_of_textless_list textless with ⟨item, listed, long⟩
    exact failsOnly_refuse fun _ => inside item listed long

theorem failsOnly_mappingOf (Allowed : Problem → Prop) {value : Value}
    (allowed : Allowed (.notMapping value.typeName)) : FailsOnly Allowed (mappingOf value) := by
  unfold mappingOf
  split
  · exact failsOnly_ok _
  · exact failsOnly_refuse allowed

theorem mappingOf_eq_ok_iff {value : Value} {entries : Entries} :
    mappingOf value = .ok entries ↔ value.entries? = some entries := by
  unfold mappingOf
  cases value.entries? <;> simp [refuse]

/-- A reader of a mapping ends for want of digits where its entries do. -/
theorem failsOnly_of_mapping {α : Type} {value : Value} {read : Entries → Reading α}
    (fails : ∀ entries, FailsOnly (IsLongAmong entries) (read entries)) :
    FailsOnly (IsLongIn value) (mappingOf value >>= read) := by
  refine (failsOnly_mappingOf _ (by simp [IsLongIn])).bind fun entries mapped => ?_
  refine (fails entries).mono fun problem among wanting => ?_
  exact holdsLong_of_entries (mappingOf_eq_ok_iff.mp mapped) (among wanting)

theorem failsOnly_nameIn (entries : Entries) :
    FailsOnly (IsLongAmong entries) (nameIn entries) := by
  have missing : FailsOnly (IsLongAmong entries) (refuse .missingName : Reading String) :=
    failsOnly_refuse (by simp [IsLongAmong])
  unfold nameIn
  split
  · split
    · exact missing
    · exact failsOnly_ok _
  · exact missing

theorem failsOnly_flagIn (entries : Entries) (key : String) :
    FailsOnly (IsLongAmong entries) (flagIn entries key) := by
  unfold flagIn
  split
  · exact failsOnly_ok _
  · exact failsOnly_ok _
  · split
    · exact (failsOnly_refuse (by simp [IsLongAmong])).under _
    · rename_i unshown
      exact failsOnly_refuse fun _ => holdLong_of_get (holdsLong_of_unshown unshown)

theorem failsOnly_listIn (entries : Entries) (key : String) :
    FailsOnly (IsLongAmong entries) (listIn entries key) := by
  simp only [listIn]
  split
  · split
    · exact failsOnly_ok _
    · exact (failsOnly_refuse (by simp [IsLongAmong])).under _
  · exact failsOnly_ok _

/-- What is listed under a key is in the entries. -/
theorem holdLong_of_listIn {entries : Entries} {key : String} {items : List Value} {item : Value}
    (listed : listIn entries key = .ok items) (inside : item ∈ items) (long : HoldsLong item) :
    HoldLong entries := by
  simp only [listIn] at listed
  split at listed
  · split at listed
    · rename_i found
      cases listed
      exact holdLong_of_get (holdsLong_of_items found inside long)
    · cases listed
  · cases listed
    cases inside

theorem failsOnly_readListIn {α : Type} {read : Value → Reading α}
    (fails : ∀ item, FailsOnly (IsLongIn item) (read item)) (entries : Entries) (key : String) :
    FailsOnly (IsLongAmong entries) (readListIn entries key read) := by
  intro fault failed
  unfold readListIn at failed
  split at failed
  · rename_i ended
    cases failed
    exact failsOnly_listIn entries key _ ended
  · rename_i items listed
    have among : ∀ item ∈ items, FailsOnly (IsLongAmong entries) (read item) := by
      intro item inside
      refine (fails item).mono fun problem long wanting => ?_
      exact holdLong_of_listIn listed inside (long wanting)
    exact (failsOnly_readItems among 0).under _ fault failed

theorem failsOnly_readArgument (value : Value) :
    FailsOnly (IsLongIn value) (readArgument value) := by
  unfold readArgument
  split
  · exact failsOnly_ok _
  · rename_i items same
    refine (failsOnly_textsOf fun item inside long => ?_).map _
    exact holdsLong_of_untie (by rw [same]; exact .item inside long)
  · rename_i first second same
    refine (failsOnly_textsOf fun item inside long => ?_).map _
    apply holdsLong_of_untie
    rw [same]
    rcases (by simpa using inside : item = first ∨ item = second) with rfl | rfl
    · exact .first long
    · exact .second long
  · exact (failsOnly_textOf value).map _

theorem failsOnly_readMembers (entries : Entries) (members : List (String × Argument)) :
    FailsOnly (IsLongAmong entries) (readMembers entries members) := by
  induction entries generalizing members with
  | nil => exact failsOnly_ok members
  | cons entry rest ih =>
      rcases entry with ⟨key, value⟩
      unfold readMembers
      refine FailsOnly.bind ((failsOnly_textOf key).mono fun problem long wanting => ?_)
        fun name _ => ?_
      · exact ⟨_, List.mem_cons_self, .inl (long wanting)⟩
      refine FailsOnly.bind ((failsOnly_readArgument value).mono fun problem long wanting => ?_)
        fun argument _ => ?_
      · exact ⟨_, List.mem_cons_self, .inr (long wanting)⟩
      refine (ih _).mono fun problem among wanting => ?_
      rcases among wanting with ⟨entry, inside, long⟩
      exact ⟨entry, List.mem_cons_of_mem _ inside, long⟩

theorem under_eq_ok_iff {α : Type} {crumbs : List Crumb} {reading : Reading α} {value : α} :
    under crumbs reading = .ok value ↔ reading = .ok value := by
  cases reading <;> simp [under]

/-- The members of an annotation are in its mapping, if there are any. -/
theorem holdLong_of_members {given : Value} {members : Entries}
    (mapped : mappingOf (if given.isTruthy then given else .map []) = .ok members)
    (long : HoldLong members) : HoldsLong given := by
  have entries := mappingOf_eq_ok_iff.mp mapped
  split at entries
  · exact holdsLong_of_entries entries long
  · cases entries
    rcases long with ⟨entry, inside, _⟩
    cases inside

theorem failsOnly_readAnnotation (value : Value) :
    FailsOnly (IsLongIn value) <| readAnnotation value := by
  unfold readAnnotation
  split
  · exact failsOnly_ok _
  · apply failsOnly_of_mapping
    intro entries
    refine (failsOnly_nameIn entries).bind fun name _ => ?_
    refine FailsOnly.bind (FailsOnly.under (failsOnly_mappingOf _ (by simp [IsLongAmong])) _)
      fun members read => ?_
    refine FailsOnly.bind ((failsOnly_readMembers members []).mono fun problem among wanting => ?_)
      fun arguments _ => failsOnly_ok _
    exact holdLong_of_get (holdLong_of_members (under_eq_ok_iff.mp read) (among wanting))

theorem failsOnly_readAnnotations (entries : Entries) :
    FailsOnly (IsLongAmong entries) (readAnnotations entries) :=
  failsOnly_readListIn failsOnly_readAnnotation entries "annotations"

theorem failsOnly_readField (value : Value) : FailsOnly (IsLongIn value) (readField value) := by
  apply failsOnly_of_mapping
  intro entries
  refine (failsOnly_nameIn entries).bind fun name _ => ?_
  refine (failsOnly_flagIn entries _).bind fun isDynamic _ => ?_
  refine (failsOnly_readAnnotations entries).bind fun annotations _ => ?_
  exact failsOnly_ok _

theorem failsOnly_readParameter (value : Value) :
    FailsOnly (IsLongIn value) (readParameter value) := by
  apply failsOnly_of_mapping
  intro entries
  refine (failsOnly_nameIn entries).bind fun name _ => ?_
  refine (failsOnly_flagIn entries _).bind fun isDynamic _ => ?_
  exact failsOnly_ok _

theorem failsOnly_readMethod (value : Value) : FailsOnly (IsLongIn value) (readMethod value) := by
  apply failsOnly_of_mapping
  intro entries
  refine (failsOnly_readListIn failsOnly_readParameter entries _).bind fun parameters _ => ?_
  refine (failsOnly_nameIn entries).bind fun name _ => ?_
  refine (failsOnly_flagIn entries _).bind fun returnsDynamic _ => ?_
  refine (failsOnly_readAnnotations entries).bind fun annotations _ => ?_
  exact failsOnly_ok _

theorem failsOnly_readClassBody (entries : Entries) (name : String) :
    FailsOnly (IsLongAmong entries) (readClassBody entries name) := by
  unfold readClassBody
  refine (failsOnly_readListIn failsOnly_readField entries _).bind fun fields _ => ?_
  refine (failsOnly_readListIn failsOnly_readMethod entries _).bind fun methods _ => ?_
  refine (failsOnly_readAnnotations entries).bind fun annotations _ => ?_
  split
  · exact failsOnly_ok _
  · refine FailsOnly.bind ((failsOnly_textOf _).mono fun problem long wanting => ?_)
      fun package _ => failsOnly_ok _
    exact holdLong_of_get (long wanting)

theorem failsOnly_readClass (value : Value) : FailsOnly (IsLongIn value) (readClass value) := by
  apply failsOnly_of_mapping
  intro entries
  refine (failsOnly_nameIn entries).bind fun name _ => ?_
  exact (failsOnly_readClassBody entries name).under _

theorem failsOnly_readUnitName (entries : Entries) :
    FailsOnly (IsLongAmong entries) (readUnitName entries) := by
  unfold readUnitName
  split
  · exact failsOnly_ok _
  · rename_i value found
    refine (failsOnly_textOf value).mono fun problem long wanting => ?_
    exact holdLong_of_get? found (long wanting)

theorem failsOnly_readTarget (entries : Entries) :
    FailsOnly (IsLongAmong entries) (readTarget entries) := by
  simp only [readTarget]
  split
  · refine FailsOnly.map ((failsOnly_textOf _).mono fun problem long wanting => ?_) _
    exact holdLong_of_get (long wanting)
  · exact failsOnly_ok _

theorem failsOnly_readUnit (value : Value) : FailsOnly (IsLongIn value) (readUnit value) := by
  apply failsOnly_of_mapping
  intro entries
  refine (failsOnly_readUnitName entries).bind fun name _ => ?_
  refine (failsOnly_readTarget entries).bind fun targetDirectory _ => ?_
  refine (failsOnly_readListIn failsOnly_readClass entries _).bind fun classes _ => ?_
  exact failsOnly_ok _

/-! ## Documents -/

theorem failsOnly_unitItems (value : Value) :
    FailsOnly (IsLongIn value) (unitItems value) := by
  unfold unitItems
  split
  · exact failsOnly_ok _
  · split
    · split
      · split
        · split
          · exact failsOnly_ok _
          · exact failsOnly_refuse (by simp [IsLongIn])
        · exact failsOnly_ok _
      · exact failsOnly_ok _
    · exact failsOnly_refuse (by simp [IsLongIn])

/-- The unit descriptors of a document are in it. -/
theorem holdsLong_of_unitItems {value : Value} {items : List Value} {item : Value}
    (listed : unitItems value = .ok items) (inside : item ∈ items) (long : HoldsLong item) :
    HoldsLong value := by
  unfold unitItems at listed
  split at listed
  · rename_i found
    cases listed
    exact holdsLong_of_items found inside long
  · split at listed
    · rename_i entries mapped
      split at listed
      · rename_i units under
        split at listed
        · split at listed
          · rename_i found
            cases listed
            exact holdsLong_of_entries mapped
              (holdLong_of_get? under (holdsLong_of_items found inside long))
          · cases listed
        · cases listed
          cases inside
      · cases listed
        rcases (by simpa using inside : item = value) with rfl
        exact long
    · cases listed

/-- Reading a document ends for want of digits only if the document holds a long
number. -/
theorem failsOnly_readUnits (value : Value) : FailsOnly (IsLongIn value) (readUnits value) := by
  unfold readUnits
  refine (failsOnly_unitItems value).bind fun items listed => ?_
  refine failsOnly_readItems (fun item inside => ?_) 0
  refine (failsOnly_readUnit item).mono fun problem long wanting => ?_
  exact holdsLong_of_unitItems listed inside (long wanting)

end CompilePolicy.Descriptor

import CompilePolicy.Proofs.Tree.Elements

/-!
# Where faults are

The message of a fault begins with the location of the element that was read, and what follows
does not depend on the location. Only want of digits has no place. A list of units ends at the
first unit that is not accepted on its own, and its message is that unit's at its position.

Faults carry trails, and the violations of the format carry places that are put together on the
way down. At every location both come to the same message.
-/

namespace CompilePolicy.Descriptor

open CompilePolicy.Document Format

/-! ## Problems with a place -/

/-- A problem of an element. Only a whole document can be of the wrong shape altogether. -/
def IsOfElement (problem : Problem) : Prop :=
  ∀ typeName, problem ≠ .notDocument typeName

section

variable {α : Type}

theorem placed_textOf (value : Value) : FailsOnly IsOfElement (textOf value) := by
  unfold textOf
  split
  · exact failsOnly_ok _
  · exact failsOnly_refuse nofun

theorem placed_textsOf (values : List Value) : FailsOnly IsOfElement (textsOf values) := by
  unfold textsOf
  split
  · exact failsOnly_ok _
  · exact failsOnly_refuse nofun

theorem placed_mappingOf (value : Value) : FailsOnly IsOfElement (mappingOf value) :=
  failsOnly_mappingOf _ nofun

theorem placed_nameIn (entries : Entries) : FailsOnly IsOfElement (nameIn entries) := by
  unfold nameIn
  split
  · split
    · exact failsOnly_refuse nofun
    · exact failsOnly_ok _
  · exact failsOnly_refuse nofun

theorem placed_flagIn (entries : Entries) (key : String) :
    FailsOnly IsOfElement (flagIn entries key) := by
  unfold flagIn
  split
  · exact failsOnly_ok _
  · exact failsOnly_ok _
  · split
    · exact FailsOnly.under (failsOnly_refuse nofun) _
    · exact failsOnly_refuse nofun

theorem placed_readListIn {read : Value → Reading α}
    (placed : ∀ item, FailsOnly IsOfElement (read item)) (entries : Entries) (key : String) :
    FailsOnly IsOfElement (readListIn entries key read) := by
  have listed : FailsOnly IsOfElement (listIn entries key) := by
    simp only [listIn]
    split
    · split
      · exact failsOnly_ok _
      · exact FailsOnly.under (failsOnly_refuse (by simp [IsOfElement])) _
    · exact failsOnly_ok _
  rw [readListIn_eq]
  apply listed.bind
  intro items _
  exact (failsOnly_readItems (fun item _ => placed item) 0).under _

end

theorem placed_readArgument (value : Value) : FailsOnly IsOfElement (readArgument value) := by
  unfold readArgument
  split
  · exact failsOnly_ok _
  · exact (placed_textsOf _).map _
  · exact (placed_textsOf _).map _
  · exact (placed_textOf _).map _

theorem placed_readMembers (entries : Entries) (members : List (String × Argument)) :
    FailsOnly IsOfElement (readMembers entries members) := by
  induction entries generalizing members with
  | nil => exact failsOnly_ok members
  | cons entry rest ih =>
      unfold readMembers
      apply (placed_textOf entry.1).bind
      intro name _
      apply (placed_readArgument entry.2).bind
      intro argument _
      exact ih _

theorem placed_readAnnotation (value : Value) :
    FailsOnly IsOfElement <| readAnnotation value := by
  unfold readAnnotation
  split
  · exact failsOnly_ok _
  · apply (placed_mappingOf _).bind
    intro entries _
    apply (placed_nameIn entries).bind
    intro name _
    apply ((placed_mappingOf _).under _).bind
    intro members _
    apply (placed_readMembers members []).bind
    intro arguments _
    exact failsOnly_ok _

theorem placed_readField (value : Value) : FailsOnly IsOfElement (readField value) := by
  apply (placed_mappingOf value).bind
  intro entries _
  apply (placed_nameIn entries).bind
  intro name _
  apply (placed_flagIn entries _).bind
  intro isDynamic _
  apply (placed_readListIn placed_readAnnotation entries _).bind
  intro annotations _
  exact failsOnly_ok _

theorem placed_readParameter (value : Value) : FailsOnly IsOfElement (readParameter value) := by
  apply (placed_mappingOf value).bind
  intro entries _
  apply (placed_nameIn entries).bind
  intro name _
  apply (placed_flagIn entries _).bind
  intro isDynamic _
  exact failsOnly_ok _

theorem placed_readMethod (value : Value) : FailsOnly IsOfElement (readMethod value) := by
  apply (placed_mappingOf value).bind
  intro entries _
  apply (placed_readListIn placed_readParameter entries _).bind
  intro parameters _
  apply (placed_nameIn entries).bind
  intro name _
  apply (placed_flagIn entries _).bind
  intro returnsDynamic _
  apply (placed_readListIn placed_readAnnotation entries _).bind
  intro annotations _
  exact failsOnly_ok _

theorem placed_readPackage (entries : Entries) : FailsOnly IsOfElement (readPackage entries) := by
  unfold readPackage
  split
  · exact failsOnly_ok _
  · exact (placed_textOf _).map _

theorem placed_readClass (value : Value) : FailsOnly IsOfElement (readClass value) := by
  apply (placed_mappingOf value).bind
  intro entries _
  apply (placed_nameIn entries).bind
  intro name _
  rw [readClassBody_eq]
  apply FailsOnly.under
  apply (placed_readListIn placed_readField entries _).bind
  intro fields _
  apply (placed_readListIn placed_readMethod entries _).bind
  intro methods _
  apply (placed_readListIn placed_readAnnotation entries _).bind
  intro annotations _
  apply (placed_readPackage entries).bind
  intro package _
  exact failsOnly_ok _

theorem placed_readUnit (value : Value) : FailsOnly IsOfElement (readUnit value) := by
  apply (placed_mappingOf value).bind
  intro entries _
  have named : FailsOnly IsOfElement (readUnitName entries) := by
    unfold readUnitName
    split
    · exact failsOnly_ok _
    · exact placed_textOf _
  have directed : FailsOnly IsOfElement (readTarget entries) := by
    simp only [readTarget]
    split
    · exact (placed_textOf _).map _
    · exact failsOnly_ok _
  apply named.bind
  intro name _
  apply directed.bind
  intro targetDirectory _
  apply (placed_readListIn placed_readClass entries _).bind
  intro classes _
  exact failsOnly_ok _

/-! ## Elements -/

/-- The violations of an element's format, with their places. -/
def Element.violations : Element → String → Value → List String
  | unit => unitViolations
  | classDecl => classViolations
  | field => fieldViolations
  | method => methodViolations
  | parameter => parameterViolations
  | note => annotationViolations

theorem follows_read (element : Element) (place : String) (value : Value) :
    ∃ described, Follows place (element.violations place value) described (element.read value) := by
  cases element with
  | unit => exact ⟨_, follows_readUnit place value⟩
  | classDecl => exact ⟨_, follows_readClass place value⟩
  | field => exact ⟨_, follows_readField place value⟩
  | method => exact ⟨_, follows_readMethod place value⟩
  | parameter => exact ⟨_, follows_readParameter place value⟩
  | note => exact ⟨_, follows_readAnnotation place value⟩

theorem placed_read (element : Element) (value : Value) :
    FailsOnly IsOfElement (element.read value) := by
  cases element with
  | unit => exact placed_readUnit value
  | classDecl => exact placed_readClass value
  | field => exact placed_readField value
  | method => exact placed_readMethod value
  | parameter => exact placed_readParameter value
  | note => exact placed_readAnnotation value

theorem failsOnly_read (element : Element) (value : Value) :
    FailsOnly (IsLongIn value) (element.read value) := by
  cases element with
  | unit => exact failsOnly_readUnit value
  | classDecl => exact failsOnly_readClass value
  | field => exact failsOnly_readField value
  | method => exact failsOnly_readMethod value
  | parameter => exact failsOnly_readParameter value
  | note => exact failsOnly_readAnnotation value

/-- What the message of a fault says after the location. -/
def Fault.suffix (fault : Fault) : String :=
  String.join (fault.trail.map Crumb.text) ++ fault.problem.words

theorem message_eq_append {fault : Fault} (placed : IsOfElement fault.problem)
    (located : fault.problem ≠ .tooManyDigits) (location : String) :
    fault.message location = location ++ fault.suffix := by
  rcases fault with ⟨trail, problem⟩
  cases problem with
  | notDocument typeName => exact absurd rfl (placed typeName)
  | tooManyDigits => exact absurd rfl located
  | _ => rw [Fault.message, Fault.suffix, String.append_assoc]

theorem message_of_tooManyDigits {fault : Fault} (wanting : fault.problem = .tooManyDigits)
    (location : String) : fault.message location = unshownMessage := by
  rw [Fault.message, wanting]
  rfl

theorem violations_of_read {element : Element} {value : Value} {result : element.Result}
    (read : element.read value = .ok result) (place : String) :
    element.violations place value = [] := by
  rcases follows_read element place value with ⟨described, follows⟩
  rw [read] at follows
  generalize element.violations place value = violations at follows ⊢
  cases follows with
  | gives => rfl

theorem head_violations_of_error {element : Element} {value : Value} {fault : Fault}
    (read : element.read value = .error fault) (located : fault.problem ≠ .tooManyDigits)
    (place : String) :
    (element.violations place value).head? = some (fault.message place) := by
  rcases follows_read element place value with ⟨described, follows⟩
  rw [read] at follows
  generalize element.violations place value = violations at follows ⊢
  cases follows with
  | wanting wants => exact absurd wants located
  | refuses _ rest => rfl

/-! ## Lists of units -/

section

variable {α : Type} {read : Value → Reading α}

/-- The items of a list are accepted if each of them is accepted on its own. -/
theorem readItems_succeeds_iff {position : Nat} {items : List Value} :
    (∃ results, readItems read position items = .ok results) ↔
      ∀ item ∈ items, ∃ result, read item = .ok result := by
  simp only [readItems_eq_ok_iff]
  induction items with
  | nil => simp
  | cons item rest ih =>
      rw [List.forall_mem_cons, ← ih]
      constructor
      · rintro ⟨results, all⟩
        rcases List.forall₂_cons_left_iff.mp all with ⟨result, others, one, later, -⟩
        exact ⟨⟨result, one⟩, others, later⟩
      · rintro ⟨⟨result, one⟩, others, later⟩
        exact ⟨result :: others, .cons one later⟩

/-- Items end at the first one that is not accepted on its own. -/
theorem readItems_eq_error {before : List Value} {item : Value} {fault : Fault}
    (accepted : ∀ earlier ∈ before, ∃ result, read earlier = .ok result)
    (failed : read item = .error fault) (position : Nat) (after : List Value) :
    readItems read position (before ++ item :: after) =
      .error { fault with trail := .index (position + before.length) :: fault.trail } := by
  induction before generalizing position with
  | nil =>
      rw [List.nil_append, readItems_cons, failed]
      rfl
  | cons first rest ih =>
      rcases List.forall_mem_cons.mp accepted with ⟨⟨result, one⟩, others⟩
      rw [List.cons_append, readItems_cons, one, ih others, List.length_cons,
        Nat.add_comm rest.length 1, ← Nat.add_assoc]
      rfl

end

/-- Faults are located and local. The reader of an element gives a result or a fault whose message
is the location, whichever it is, and then the same suffix: just what the format says of the
element at that location. Only for want of digits, which an element without a long number never
has, is there a message without a location. A list of units is accepted if each unit is accepted
on its own. If not, the first one that is not ends the reading, whatever comes after it, with its
own message at its position. -/
theorem faults_are_located_but_for_want_of_digits (element : Element) (value document : Value) :
    ((∃ result, element.read value = .ok result ∧
        ∀ location, element.violations location value = []) ∨
      (∃ fault suffix, element.read value = .error fault ∧ ∀ location,
        fault.message location = location ++ suffix ∧
          (element.violations location value).head? = some (location ++ suffix)) ∨
      ∃ fault, element.read value = .error fault ∧ fault.problem = .tooManyDigits ∧
        HoldsLong value ∧ ∀ location, fault.message location = unshownMessage) ∧
    ∀ items, unitItems document = .ok items →
      ((∃ units, readUnits document = .ok units) ↔
        ∀ item ∈ items, ∃ unit, readUnit item = .ok unit) ∧
      ∀ before item after fault, items = before ++ item :: after →
        (∀ earlier ∈ before, ∃ unit, readUnit earlier = .ok unit) →
        readUnit item = .error fault →
        (∃ first, readUnits document = .error first ∧ first.problem = fault.problem ∧
          ∀ suffix, (∀ location, fault.message location = location ++ suffix) →
            first.message unitsLocation = itemPlace unitsLocation before.length ++ suffix) ∧
        ∀ other rest, unitItems other = .ok (before ++ item :: rest) →
          readUnits other = readUnits document := by
  constructor
  · cases read : element.read value with
    | ok result => exact .inl ⟨result, rfl, violations_of_read read⟩
    | error fault =>
        by_cases wanting : fault.problem = .tooManyDigits
        · refine .inr (.inr ⟨fault, rfl, wanting, ?_, message_of_tooManyDigits wanting⟩)
          exact failsOnly_read element value fault read wanting
        · refine .inr (.inl ⟨fault, fault.suffix, rfl, fun location => ?_⟩)
          have message := message_eq_append (placed_read element value fault read) wanting location
          rw [head_violations_of_error read wanting, message]
          exact ⟨rfl, rfl⟩
  · intro items listed
    have steps : ∀ other others, unitItems other = .ok others →
        readUnits other = readItems readUnit 0 others := by
      intro other others same
      rw [readUnits, same]
      rfl
    constructor
    · rw [steps document items listed]
      exact readItems_succeeds_iff
    · rintro before item after fault rfl accepted failed
      have ended := readItems_eq_error accepted failed 0
      rw [steps _ _ listed, ended after, Nat.zero_add]
      refine ⟨⟨_, rfl, rfl, fun suffix located => ?_⟩, fun other rest same => ?_⟩
      · rw [itemPlace_eq, ← located, message_under]
        rfl
      · rw [steps _ _ same, ended rest, Nat.zero_add]

/-- The second of three units has a class without a name, and the third is no mapping. -/
theorem faults_are_located_but_for_want_of_digits_at_second_unit :
    let nameless : Value := .record [("classes", .list [.record []])]
    let document : Value := .list [.record [], nameless, .int 5]
    unitItems document = .ok [.record [], nameless, .int 5] ∧
      readUnit nameless = .error ⟨[.key "classes", .index 0], .missingName⟩ ∧
      (∃ fault, readUnits document = .error fault ∧
        fault.message unitsLocation = "units[1].classes[0]: missing 'name'") ∧
      readUnits (.list [.record [], nameless]) = readUnits document := by
  intro nameless document
  have failed : readUnit nameless = .error ⟨[.key "classes", .index 0], .missingName⟩ := rfl
  have accepted : ∀ earlier ∈ [Value.record []], ∃ unit, readUnit earlier = .ok unit := by
    intro earlier isEarlier
    rw [List.mem_singleton.mp isEarlier]
    exact ⟨_, rfl⟩
  rcases ((faults_are_located_but_for_want_of_digits .unit nameless document).2 _ rfl).2
    [.record []] nameless [.int 5] _ rfl accepted failed with ⟨⟨first, read, -, message⟩, locally⟩
  refine ⟨rfl, failed, ⟨first, read, ?_⟩, locally _ [] rfl⟩
  rw [message _ (message_eq_append nofun nofun)]
  decide

/-- A unit with a whole number of too many digits for its name has a message without a
location. -/
theorem long_unit_name_has_no_location :
    let unit : Value := .record [("name", .int (Int.ofNat (Nat.pow 16 3600)))]
    readUnit unit = .error ⟨[], .tooManyDigits⟩ ∧
      ¬∃ suffix, ∀ location, Fault.message location ⟨[], .tooManyDigits⟩ = location ++ suffix := by
  intro unit
  constructor
  · decide +kernel
  · rintro ⟨suffix, located⟩
    have short := located ""
    have long := located "unit"
    rw [message_of_tooManyDigits rfl] at short long
    rw [short, String.empty_append] at long
    have lengths := congrArg String.length long
    simp at lengths

end CompilePolicy.Descriptor

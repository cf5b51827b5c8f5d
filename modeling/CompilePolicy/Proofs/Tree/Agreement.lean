import CompilePolicy.Proofs.Document.Repeats
import CompilePolicy.Proofs.Tree.Format
import CompilePolicy.Proofs.Tree.Reading
import Mathlib.Data.List.Induction

/-!
# Reading follows the format

Reading a descriptor checks and builds at once and ends at the first fault. It gives
what the format says in two separate passes: the first violation ends the reading with
its message, and a descriptor without violations gives the units that it describes.

Each reader is compared with the violations and the description of its own part. A
reader that is made of others follows them step by step: where a step ends, no later
step is made, and where it does not, it has no violations and gives what is described.
-/

namespace CompilePolicy.Descriptor

open CompilePolicy.Document Format

/-- A reading of what stands at a place follows the violations there and what is
described: it ends with the message of the first violation, or gives what is described
where there is none. It may also end for want of digits. -/
inductive Follows {α : Type} (place : String) : List String → α → Reading α → Prop
  | wanting {violations : List String} {described : α} {fault : Fault}
      (wants : fault.problem = .tooManyDigits) :
      Follows place violations described (.error fault)
  | gives (described : α) : Follows place [] described (.ok described)
  | refuses {described : α} {fault : Fault} (located : fault.problem ≠ .tooManyDigits)
      (rest : List String) :
      Follows place (fault.message place :: rest) described (.error fault)

namespace Follows

variable {α β : Type} {place : String}

/-- A problem at the place itself. -/
theorem refuse (problem : Problem) (described : α) (located : problem ≠ .tooManyDigits)
    (placed : ∀ typeName, problem ≠ .notDocument typeName) :
    Follows place [place ++ problem.words] described (refuse problem) := by
  have message : Fault.message place ⟨[], problem⟩ = place ++ problem.words := by
    cases problem with
    | notDocument typeName => exact absurd rfl (placed typeName)
    | tooManyDigits => exact absurd rfl located
    | _ => simp [Fault.message]
  rw [← message]
  exact .refuses located []

/-- Two steps. The second one starts from what the first one describes. -/
theorem bind {first : Reading α} {next : α → Reading β} {before after : List String}
    {partly : α} {described : β} (follows : Follows place before partly first)
    (later : Follows place after described (next partly)) :
    Follows place (before ++ after) described (first >>= next) := by
  cases follows with
  | wanting wants => exact .wanting wants
  | gives => exact later
  | refuses located rest => exact .refuses located (rest ++ after)

/-- A last step that only puts together what was read. -/
theorem bind_ok {first : Reading α} {build : α → β} {violations : List String} {partly : α}
    {described : β} (follows : Follows place violations partly first)
    (same : build partly = described) :
    Follows place violations described (first >>= fun read => .ok (build read)) := by
  rw [← same, ← List.append_nil violations]
  exact follows.bind (.gives (build partly))

theorem map {reading : Reading α} {violations : List String} {described : α}
    (follows : Follows place violations described reading) (f : α → β) :
    Follows place violations (f described) (reading.map f) := by
  cases follows with
  | wanting wants => exact .wanting wants
  | gives => exact .gives (f described)
  | refuses located rest => exact .refuses located rest

/-- A reading that does not end for want of digits does exactly what it follows. -/
theorem result {reading : Reading α} {violations : List String} {described : α}
    (follows : Follows place violations described reading)
    (enough : ∀ fault, reading = .error fault → fault.problem ≠ .tooManyDigits) :
    (violations = [] → reading = .ok described) ∧
      ∀ first, violations.head? = some first →
        ∃ fault, reading = .error fault ∧ fault.problem ≠ .tooManyDigits ∧
          fault.message place = first := by
  cases follows with
  | wanting wants => exact absurd wants (enough _ rfl)
  | gives => exact ⟨fun _ => rfl, nofun⟩
  | refuses located =>
      refine ⟨nofun, fun first listed => ?_⟩
      exact ⟨_, rfl, located, Option.some.inj listed⟩

end Follows

/-! ## Places -/

/-- A step of the trail can be shown as a part of the location. -/
theorem message_under (location : String) (crumb : Crumb) (fault : Fault) :
    fault.message (location ++ crumb.text) =
      Fault.message location { fault with trail := [crumb] ++ fault.trail } := by
  simp only [Fault.message, List.cons_append, List.nil_append, List.map_cons, String.join_cons,
    String.append_assoc]

theorem Follows.under {α : Type} {place : String} {crumb : Crumb} {violations : List String}
    {described : α} {reading : Reading α}
    (follows : Follows (place ++ crumb.text) violations described reading) :
    Follows place violations described (under [crumb] reading) := by
  cases follows with
  | wanting wants => exact .wanting wants
  | gives => exact .gives described
  | @refuses _ fault located rest =>
      rw [message_under]
      have still : Fault.problem { fault with trail := [crumb] ++ fault.trail } ≠ .tooManyDigits :=
        located
      exact .refuses still rest

theorem keyPlace_eq (place key : String) : keyPlace place key = place ++ (Crumb.key key).text := by
  rw [keyPlace, Crumb.text, String.append_assoc]

theorem itemPlace_eq (place : String) (position : Nat) :
    itemPlace place position = place ++ (Crumb.index position).text := by
  simp only [itemPlace, Crumb.text, String.append_assoc]

theorem classPlace_eq (place name : String) :
    classPlace place name = place ++ (Crumb.className name).text := by
  rw [classPlace, Crumb.text, String.append_assoc]

/-! ## Parts of values -/

theorem follows_textOf (place : String) (value : Value) :
    Follows place [] (wordsOf value) (textOf value) := by
  unfold textOf wordsOf
  cases value.text? with
  | none => exact .wanting rfl
  | some text => exact .gives text

theorem texts?_cons (value : Value) (rest : List Value) :
    texts? (value :: rest) =
      value.text?.bind fun text => (texts? rest).map (text :: ·) := by
  cases found : value.text? <;> cases others : texts? rest <;>
    simp_all [texts?]

theorem follows_textsOf (place : String) (values : List Value) :
    Follows place [] (values.map wordsOf) (textsOf values) := by
  have known : ∀ texts, texts? values = some texts → texts = values.map wordsOf := by
    induction values with
    | nil => simp [texts?]
    | cons value rest ih =>
        intro texts found
        rw [texts?_cons, Option.bind_eq_some_iff] at found
        rcases found with ⟨text, first, found⟩
        rw [Option.map_eq_some_iff] at found
        rcases found with ⟨others, found, rfl⟩
        rw [ih others found, List.map_cons, wordsOf, first, Option.getD_some]
  unfold textsOf
  cases found : texts? values with
  | none => exact .wanting rfl
  | some texts =>
      rw [← known texts found]
      exact .gives texts

/-- A reader of a mapping reads on in its entries. -/
theorem follows_mapping {α : Type} {place : String} {value : Value}
    {within : Entries → List String} {read : Entries → Reading α} {described : α}
    (follows : Follows place (within (entriesOf value)) described (read (entriesOf value))) :
    Follows place (inMapping place value within) described (mappingOf value >>= read) := by
  unfold inMapping mappingOf
  unfold entriesOf at follows
  cases found : value.entries? with
  | some entries =>
      rw [found] at follows
      exact follows
  | none =>
      rw [String.append_assoc]
      exact Follows.refuse (.notMapping value.typeName) described (by simp) (by simp)

theorem follows_nameIn (place : String) (entries : Entries) :
    Follows place (nameViolations place entries) (nameOf entries) (nameIn entries) := by
  have missing : Follows place [place ++ ": missing 'name'"] ""
      (refuse .missingName : Reading String) :=
    Follows.refuse .missingName "" (by simp) (by simp)
  unfold nameViolations nameOf nameIn
  cases entries.get "name" with
  | string name =>
      by_cases empty : name = ""
      · simpa [Value.string?, empty] using missing
      · simpa [Value.string?, empty] using Follows.gives name
  | _ => simpa [Value.string?] using missing

theorem follows_flagIn (place : String) (entries : Entries) (key : String) :
    Follows place (flagViolations (keyPlace place key) (entries.get key))
      (flagOf (entries.get key)) (flagIn entries key) := by
  unfold flagIn
  split
  · rename_i given
    rw [given]
    exact .gives false
  · rename_i flag given
    rw [given]
    exact .gives flag
  · rename_i notNull notBool
    have one : flagViolations (keyPlace place key) (entries.get key) =
        [keyPlace place key ++ ": expected true or false, got " ++
          (entries.get key).shown?.getD ""] := by
      unfold flagViolations
      split
      · exact absurd ‹_› notNull
      · exact absurd ‹_› (notBool _)
      · rfl
    rw [one]
    cases (entries.get key).shown? with
    | none => exact .wanting rfl
    | some shown =>
        apply Follows.under
        rw [← keyPlace_eq, Option.getD_some, String.append_assoc]
        exact Follows.refuse (.notFlag shown) _ (by simp) (by simp)

/-! ## Lists -/

theorem readItems_cons {α : Type} (read : Value → Reading α) (position : Nat) (item : Value)
    (rest : List Value) :
    readItems read position (item :: rest) =
      (under [.index position] (read item) >>= fun result =>
        readItems read (position + 1) rest >>= fun results => .ok (result :: results)) := by
  rw [readItems]
  cases under [.index position] (read item) with
  | error fault => rfl
  | ok result => cases readItems read (position + 1) rest <;> rfl

section

variable {α : Type} {each : String → Value → List String} {describe : Value → α}
  {read : Value → Reading α}

/-- The items of a list are followed one by one. -/
theorem follows_readItems
    (follows : ∀ place item, Follows place (each place item) (describe item) (read item))
    (place : String) (items : List Value) (position : Nat) :
    Follows place
      ((items.zipIdx position).flatMap fun (item, position) =>
        each (itemPlace place position) item)
      (items.map describe) (readItems read position items) := by
  induction items generalizing position with
  | nil => exact .gives []
  | cons item rest ih =>
      have first : Follows place (each (itemPlace place position) item) (describe item)
          (under [.index position] (read item)) := by
        apply Follows.under
        rw [← itemPlace_eq]
        exact follows (itemPlace place position) item
      rw [readItems_cons, List.zipIdx_cons, List.flatMap_cons, List.map_cons]
      exact first.bind ((ih (position + 1)).bind_ok rfl)

theorem follows_inItems
    (follows : ∀ place item, Follows place (each place item) (describe item) (read item))
    (place : String) (items : List Value) :
    Follows place (inItems place items each) (items.map describe) (readItems read 0 items) :=
  follows_readItems follows place items 0

theorem follows_readListIn
    (follows : ∀ place item, Follows place (each place item) (describe item) (read item))
    (place : String) (entries : Entries) (key : String) :
    Follows place (inList (keyPlace place key) (entries.get key) each)
      ((itemsOf (entries.get key)).map describe) (readListIn entries key read) := by
  unfold readListIn listIn inList itemsOf itemsOf?
  by_cases something : (entries.get key).isTruthy = true
  · simp only [something, if_true]
    cases (entries.get key).items? with
    | none =>
        rw [keyPlace_eq]
        exact (Follows.refuse .notList [] (by simp) (by simp)).under
    | some items =>
        apply Follows.under
        rw [← keyPlace_eq]
        exact follows_inItems follows (keyPlace place key) items
  · simp only [something]
    exact .gives []

end

/-! ## Members -/

theorem follows_readArgument (place : String) (value : Value) :
    Follows place [] (argumentOf value) (readArgument value) := by
  unfold argumentOf readArgument
  cases value.untie with
  | null => exact .gives Argument.absent
  | list items => exact (follows_textsOf place items).map Argument.list
  | pair first second => exact (follows_textsOf place [first, second]).map Argument.list
  | _ => exact (follows_textOf place value).map Argument.single

theorem lastArgument_concat (entries : Entries) (entry : Value × Value) (name : String) :
    lastArgument (entries ++ [entry]) name =
      if wordsOf entry.1 = name then argumentOf entry.2 else lastArgument entries name := by
  unfold lastArgument
  rw [List.findRev?_eq_find?_reverse, List.findRev?_eq_find?_reverse, List.reverse_concat,
    List.find?_cons]
  by_cases same : wordsOf entry.1 = name
  · simp [same]
  · have passed : (wordsOf entry.1 == name) = false := by
      simpa using same
    simp [passed, same]

/-- The arguments under a further entry. -/
theorem argumentsOf_concat (entries : Entries) (entry : Value × Value) :
    argumentsOf (entries ++ [entry]) =
      setField (argumentsOf entries) (wordsOf entry.1) (argumentOf entry.2) := by
  unfold argumentsOf
  rw [setField_map (nodup_eraseDups _), List.map_append, List.map_singleton, eraseDups_concat]
  simp only [List.mem_eraseDups, lastArgument_concat]
  split
  · rfl
  · rename_i new
    rw [List.map_append]
    congr 1
    · apply List.map_congr_left
      intro other listed
      rw [if_neg]
      rintro rfl
      exact new (List.mem_eraseDups.mp listed)
    · simp

theorem follows_readMembers (place : String) (rest read : Entries) :
    Follows place [] (argumentsOf (read ++ rest)) (readMembers rest (argumentsOf read)) := by
  induction rest generalizing read with
  | nil =>
      rw [List.append_nil]
      exact .gives (argumentsOf read)
  | cons entry rest ih =>
      rcases entry with ⟨key, value⟩
      have later := ih (read ++ [(key, value)])
      rw [argumentsOf_concat, List.append_assoc, List.singleton_append] at later
      exact (follows_textOf place key).bind ((follows_readArgument place value).bind later)

/-! ## Readers -/

/-- The members of an annotation are a mapping, or stand for nothing. -/
theorem follows_members (place : String) (given : Value) :
    Follows place (membersViolations (keyPlace place "members") given) (membersOf given)
      (under [.key "members"] (mappingOf (if given.isTruthy then given else .map []))) := by
  unfold membersViolations membersOf membersOf?
  by_cases something : given.isTruthy = true
  · simp only [something, if_true, mappingOf]
    cases given.entries? with
    | none =>
        rw [String.append_assoc, keyPlace_eq]
        exact (Follows.refuse (.notMapping given.typeName) _ (by simp) (by simp)).under
    | some entries => exact .gives entries
  · simp only [something]
    exact .gives []

theorem follows_readAnnotation (place : String) (value : Value) :
    Follows place (annotationViolations place value) (annotationOf value) <|
      readAnnotation value := by
  have written : Follows place
      (inMapping place value fun entries =>
        nameViolations place entries ++
          membersViolations (keyPlace place "members") (entries.get "members"))
      ({ name := fullName (nameOf (entriesOf value))
         members := argumentsOf (membersOf ((entriesOf value).get "members")) } : Annotation)
      (mappingOf value >>= fun entries => do
        let name ← nameIn entries
        let given := entries.get "members"
        let members ← under [.key "members"]
          (mappingOf (if given.isTruthy then given else .map []))
        let arguments ← readMembers members []
        .ok { name := fullName name, members := arguments }) := by
    apply follows_mapping
    refine (follows_nameIn place _).bind ?_
    rw [← List.append_nil (membersViolations _ _)]
    refine (follows_members place _).bind ?_
    exact (follows_readMembers place _ []).bind_ok rfl
  cases value with
  | string name => exact .gives ({ name := fullName name } : Annotation)
  | _ => exact written

theorem follows_readAnnotations (place : String) (entries : Entries) :
    Follows place (annotationsViolations place entries) (annotationsOf entries)
      (readAnnotations entries) :=
  follows_readListIn follows_readAnnotation place entries "annotations"

theorem follows_readField (place : String) (value : Value) :
    Follows place (fieldViolations place value) (fieldOf value) (readField value) := by
  apply follows_mapping
  refine (follows_nameIn place _).bind ?_
  refine (follows_flagIn place _ "dynamically_typed").bind ?_
  exact (follows_readAnnotations place _).bind_ok rfl

theorem follows_readParameter (place : String) (value : Value) :
    Follows place (parameterViolations place value) (parameterOf value)
      (readParameter value) := by
  apply follows_mapping
  refine (follows_nameIn place _).bind ?_
  exact (follows_flagIn place _ "dynamically_typed").bind_ok rfl

theorem follows_readMethod (place : String) (value : Value) :
    Follows place (methodViolations place value) (methodOf value) (readMethod value) := by
  unfold methodOf
  apply follows_mapping
  refine (follows_readListIn follows_readParameter place _ "parameters").bind ?_
  refine (follows_nameIn place _).bind ?_
  refine (follows_flagIn place _ "dynamic_return_type").bind ?_
  exact (follows_readAnnotations place _).bind_ok rfl

theorem follows_readClassBody (place : String) (entries : Entries) :
    Follows place
      (inList (keyPlace place "fields") (entries.get "fields") fieldViolations ++
        (inList (keyPlace place "methods") (entries.get "methods") methodViolations ++
          annotationsViolations place entries))
      { name := nameOf entries
        annotations := annotationsOf entries
        fields := (itemsOf (entries.get "fields")).map fieldOf
        methods := (itemsOf (entries.get "methods")).map methodOf
        package := packageOf entries }
      (readClassBody entries (nameOf entries)) := by
  unfold readClassBody
  refine (follows_readListIn follows_readField place entries "fields").bind ?_
  refine (follows_readListIn follows_readMethod place entries "methods").bind ?_
  rw [← List.append_nil (annotationsViolations place entries)]
  refine (follows_readAnnotations place entries).bind ?_
  unfold packageOf
  cases entries.get "package" with
  | null => exact .gives _
  | _ => exact (follows_textOf place _).bind_ok rfl

theorem follows_readClass (place : String) (value : Value) :
    Follows place (classViolations place value) (classOf value) (readClass value) := by
  apply follows_mapping
  refine (follows_nameIn place _).bind ?_
  apply Follows.under
  rw [← classPlace_eq]
  exact follows_readClassBody (classPlace place (nameOf (entriesOf value))) (entriesOf value)

theorem follows_readUnitName (place : String) (entries : Entries) :
    Follows place [] (((entries.get? "name").map wordsOf).getD "") (readUnitName entries) := by
  unfold readUnitName
  cases entries.get? "name" with
  | none => exact .gives ""
  | some value => exact follows_textOf place value

theorem follows_readTarget (place : String) (entries : Entries) :
    Follows place [] (targetOf entries) (readTarget entries) := by
  unfold readTarget targetOf
  dsimp only
  split
  · exact (follows_textOf place _).map some
  · exact .gives none

theorem follows_readUnit (place : String) (value : Value) :
    Follows place (unitViolations place value) (unitOf value) (readUnit value) := by
  apply follows_mapping
  refine (follows_readUnitName place _).bind ?_
  refine (follows_readTarget place _).bind ?_
  exact (follows_readListIn follows_readClass place _ "classes").bind_ok rfl

/-! ## Documents -/

theorem follows_readUnits (document : Value) :
    Follows unitsLocation (violations document) (units document) (readUnits document) := by
  have listed := follows_inItems follows_readUnit unitsLocation
  unfold violations units unitValues readUnits unitItems
  cases document.items? with
  | some items => exact listed items
  | none =>
      cases document.entries? with
      | none =>
          have located : Fault.problem ⟨[], .notDocument document.typeName⟩ ≠ .tooManyDigits :=
            nofun
          exact .refuses located []
      | some entries =>
          dsimp only
          cases entries.get? "units" with
          | none => exact listed [document]
          | some given =>
              unfold inList itemsOf itemsOf?
              by_cases something : given.isTruthy = true
              · simp only [something, if_true]
                cases given.items? with
                | none => exact Follows.refuse .notList [] (by simp) (by simp)
                | some items => exact listed items
              · simp only [something]
                exact .gives []

/-- Reading a descriptor is checking it and then building it. Where no whole number of the
document has too many digits to be shown, the reading ends exactly if the document violates
the format: it gives the units that the document describes if there is no violation, and
otherwise ends with the message of the first one, and never for want of digits. -/
theorem readUnits_validates_then_builds {document : Value} (short : ¬HoldsLong document) :
    (violations document = [] → readUnits document = .ok (units document)) ∧
      ∀ first, (violations document).head? = some first →
        ∃ fault, readUnits document = .error fault ∧ fault.problem ≠ .tooManyDigits ∧
          fault.message unitsLocation = first := by
  apply (follows_readUnits document).result
  intro fault failed wanting
  exact short (failsOnly_readUnits document fault failed wanting)

/-- In a method without a name, a parameter without a name is reported first. -/
theorem readUnits_validates_then_builds_at_unnamed_method :
    let document : Value := .record [("classes", .list [.record [("name", .string "a.A"),
      ("methods", .list [.record [("parameters", .list [.record []])]])]])]
    ¬HoldsLong document ∧
      violations document =
        ["units[0].classes[0] a.A.methods[0].parameters[0]: missing 'name'",
          "units[0].classes[0] a.A.methods[0]: missing 'name'"] ∧
      ∃ fault, readUnits document = .error fault ∧ fault.problem ≠ .tooManyDigits ∧
        fault.message unitsLocation =
          "units[0].classes[0] a.A.methods[0].parameters[0]: missing 'name'" := by
  intro document
  have short : ¬HoldsLong document := by
    simp [document, Value.record, holdsLong_map_iff, holdsLong_list_iff, not_holdsLong_string]
  have listed : violations document =
      ["units[0].classes[0] a.A.methods[0].parameters[0]: missing 'name'",
        "units[0].classes[0] a.A.methods[0]: missing 'name'"] := by
    decide
  refine ⟨short, listed, (readUnits_validates_then_builds short).2 _ ?_⟩
  rw [listed]
  rfl

end CompilePolicy.Descriptor

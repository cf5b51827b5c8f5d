import CompilePolicy.Policy.Conventions

/-!
# Which conventions can be read

Reading goes over the entries in order and ends at the first one that it cannot
take up. Whether it can take up an entry depends on the entry alone: on its key, and
for a known convention on its value. So a mapping is read if all its entries fit,
and reading ends for want of digits at an entry that is too long after entries that
fit. Each entry that is taken up is listed by its name, and none changes where the
configuration comes from.
-/

namespace CompilePolicy.Conventions

open CompilePolicy.Document

/-! ## Entries -/

/-- Whether a convention is a list of strings. The others are flags. -/
def Convention.isList : Convention → Bool
  | .dynamicCompileWhiteList => true
  | .compileStaticExtensions => true
  | _ => false

/-- The items that a value lists, if it can be a list of strings: a single string
lists itself. -/
def listed? (value : Value) : Option (List Value) :=
  match value.untie with
  | .string text => some [.string text]
  | .list items => some items
  | .pair first second => some [first, second]
  | _ => none

/-- A value that a convention can be set to. -/
inductive Suits : Convention → Value → Prop
  | null {convention : Convention} : Suits convention .null
  | flag {convention : Convention} (isFlag : convention.isList = false) (flag : Bool) :
      Suits convention (.bool flag)
  | texts {convention : Convention} {value : Value} {texts : List String}
      (isList : convention.isList = true) (listed : listed? value = some (texts.map .string)) :
      Suits convention value

/-- An entry that is taken up: its key is unknown and has a text, or it is known and
the value suits it. -/
inductive Fits : Value → Value → Prop
  | unknown {key value : Value} {text : String} (unknown : conventionOf? key = none)
      (shown : key.text? = some text) : Fits key value
  | known {key value : Value} {convention : Convention}
      (known : conventionOf? key = some convention) (suits : Suits convention value) :
      Fits key value

/-- An entry that asks for a text of a whole number with too many digits: as the key
that is reported, or as the first item of a list that is no string. -/
inductive IsTooLong : Value → Value → Prop
  | key {key value : Value} (unknown : conventionOf? key = none) (unshown : key.text? = none) :
      IsTooLong key value
  | item {key value item : Value} {convention : Convention} {texts : List String}
      {rest : List Value} (known : conventionOf? key = some convention)
      (isList : convention.isList = true)
      (listed : listed? value = some (texts.map .string ++ item :: rest))
      (other : item.string? = none) (unshown : item.shown? = none) : IsTooLong key value

/-! ## Strings and flags -/

theorem flagOf_eq_ok_iff {convention : Convention} {value : Value} {flag : Bool} :
    flagOf convention value = .ok flag ↔ value = .bool flag := by
  unfold flagOf
  cases value <;> simp

theorem flagOf_ne_tooManyDigits (convention : Convention) (value : Value) :
    flagOf convention value ≠ .error .tooManyDigits := by
  unfold flagOf
  cases value <;> simp

/-- An item that is no string ends the list. -/
theorem stringsOf_cons_other (convention : Convention) {item : Value} (rest : List Value)
    (other : item.string? = none) :
    stringsOf convention (item :: rest) =
      match item.shown? with
      | some shown => .error (.refused (.notString convention shown))
      | none => .error .tooManyDigits := by
  cases item with
  | string text => simp [Value.string?] at other
  | _ => rfl

theorem stringsOf_eq_ok_iff {convention : Convention} {items : List Value} {texts : List String} :
    stringsOf convention items = .ok texts ↔ items = texts.map .string := by
  induction items generalizing texts with
  | nil => cases texts <;> simp [stringsOf]
  | cons item rest ih =>
      cases given : item.string? with
      | some text =>
          rw [Value.string?_eq_some_iff.mp given, stringsOf]
          cases texts with
          | nil => cases stringsOf convention rest <;> simp
          | cons first others =>
              have step : stringsOf convention rest = .ok others ↔ rest = others.map .string := ih
              cases read : stringsOf convention rest <;> simp_all
      | none =>
          rw [stringsOf_cons_other convention rest given]
          constructor
          · intro read
            cases shown : item.shown? <;> simp [shown] at read
          · intro same
            cases texts with
            | nil => simp at same
            | cons first others =>
                rw [(List.cons.inj same).1] at given
                simp [Value.string?] at given

/-- Why a list ends at an item that is no string. -/
def stopAt (convention : Convention) (item : Value) : Stop :=
  match item.shown? with
  | some shown => .refused (.notString convention shown)
  | none => .tooManyDigits

/-- Reading a list ends at the first item that is no string. -/
theorem stringsOf_eq_error_iff {convention : Convention} {items : List Value} {stop : Stop} :
    stringsOf convention items = .error stop ↔
      ∃ (texts : List String) (item : Value) (rest : List Value),
        items = texts.map .string ++ item :: rest ∧ item.string? = none ∧
          stopAt convention item = stop := by
  induction items with
  | nil => simp [stringsOf]
  | cons item rest ih =>
      cases given : item.string? with
      | some text =>
          have same := Value.string?_eq_some_iff.mp given
          subst same
          have step : stringsOf convention (.string text :: rest) = .error stop ↔
              stringsOf convention rest = .error stop := by
            rw [stringsOf]
            cases stringsOf convention rest <;> simp
          rw [step, ih]
          constructor
          · rintro ⟨texts, other, after, split, facts⟩
            exact ⟨text :: texts, other, after, by simp [split], facts⟩
          · rintro ⟨texts, other, after, split, noString, stops⟩
            cases texts with
            | nil =>
                rw [← (List.cons.inj split).1] at noString
                simp [Value.string?] at noString
            | cons first others =>
                exact ⟨others, other, after, (List.cons.inj split).2, noString, stops⟩
      | none =>
          have ends : stringsOf convention (item :: rest) = .error (stopAt convention item) := by
            rw [stringsOf_cons_other convention rest given, stopAt]
            cases item.shown? <;> rfl
          rw [ends, Except.error.injEq]
          constructor
          · exact fun stops => ⟨[], item, rest, rfl, given, stops⟩
          · rintro ⟨texts, other, after, split, noString, stops⟩
            cases texts with
            | nil => rwa [(List.cons.inj split).1]
            | cons first others =>
                rw [(List.cons.inj split).1] at given
                simp [Value.string?] at given

theorem stopAt_eq_tooManyDigits_iff {convention : Convention} {item : Value} :
    stopAt convention item = .tooManyDigits ↔ item.shown? = none := by
  unfold stopAt
  cases item.shown? <;> simp

/-- A list of strings is read from the items that a value lists. -/
theorem listOf_eq (convention : Convention) (value : Value) :
    listOf convention value =
      match listed? value with
      | some items => stringsOf convention items
      | none => .error (.refused (.notList convention value.typeName)) := by
  unfold listOf listed?
  cases value.untie <;> rfl

theorem listOf_eq_ok_iff {convention : Convention} {value : Value} {texts : List String} :
    listOf convention value = .ok texts ↔ listed? value = some (texts.map .string) := by
  rw [listOf_eq]
  cases listed? value with
  | none => simp
  | some items => simp [stringsOf_eq_ok_iff]

theorem listOf_eq_tooManyDigits_iff {convention : Convention} {value : Value} :
    listOf convention value = .error .tooManyDigits ↔
      ∃ (texts : List String) (item : Value) (rest : List Value),
        listed? value = some (texts.map .string ++ item :: rest) ∧
          item.string? = none ∧ item.shown? = none := by
  rw [listOf_eq]
  cases listed? value with
  | none => simp
  | some items => simp [stringsOf_eq_error_iff, stopAt_eq_tooManyDigits_iff]

/-! ## Single entries -/

theorem map_eq_ok_iff {ε α β : Type} {result : Except ε α} {f : α → β} {mapped : β} :
    result.map f = .ok mapped ↔ ∃ value, result = .ok value ∧ f value = mapped := by
  cases result <;> simp [Except.map]

private theorem map_succeeds_iff {ε α β : Type} {result : Except ε α} {f : α → β} :
    (∃ value, result.map f = .ok value) ↔ ∃ value, result = .ok value := by
  cases result <;> simp [Except.map]

theorem map_eq_error_iff {ε α β : Type} {result : Except ε α} {f : α → β} {fault : ε} :
    result.map f = .error fault ↔ result = .error fault := by
  cases result <;> simp [Except.map]

/-- A flag is set to a flag, and a list to a list of strings. -/
theorem apply_succeeds_iff {convention : Convention} {value : Value} {config : Configuration} :
    (∃ next, apply convention value config = .ok next) ↔
      if convention.isList then ∃ texts : List String, listed? value = some (texts.map .string)
      else ∃ flag, value = .bool flag := by
  cases convention <;>
    simp [apply, map_succeeds_iff, flagOf_eq_ok_iff, listOf_eq_ok_iff, Convention.isList]

theorem apply_eq_error_iff {convention : Convention} {value : Value} {config : Configuration}
    {stop : Stop} :
    apply convention value config = .error stop ↔
      if convention.isList then listOf convention value = .error stop
      else flagOf convention value = .error stop := by
  cases convention <;> simp [apply, map_eq_error_iff, Convention.isList]

/-- Only a list can end reading for want of digits. -/
theorem apply_eq_tooManyDigits_iff {convention : Convention} {value : Value}
    {config : Configuration} :
    apply convention value config = .error .tooManyDigits ↔
      convention.isList = true ∧ listOf convention value = .error .tooManyDigits := by
  rw [apply_eq_error_iff]
  cases convention.isList <;> simp [flagOf_ne_tooManyDigits]

theorem suits_iff {convention : Convention} {value : Value} :
    Suits convention value ↔
      value = .null ∨
        if convention.isList then ∃ texts : List String, listed? value = some (texts.map .string)
        else ∃ flag, value = .bool flag := by
  constructor
  · rintro (_ | ⟨isFlag, flag⟩ | ⟨isList, listed⟩)
    · exact .inl rfl
    · exact .inr (by simp [isFlag])
    · exact .inr (by simpa [isList] using ⟨_, listed⟩)
  · rintro (rfl | given)
    · exact .null
    · cases isList : convention.isList with
      | true =>
          rcases (by simpa [isList] using given) with ⟨texts, listed⟩
          exact .texts isList listed
      | false =>
          rcases (by simpa [isList] using given : ∃ flag, value = .bool flag) with ⟨flag, rfl⟩
          exact .flag isList flag

/-- Null has no items to be shown. -/
theorem listOf_null (convention : Convention) :
    listOf convention .null ≠ .error .tooManyDigits := by
  simp [listOf, Value.untie]

/-- What is taken up so far has no part in whether an entry is taken up. -/
theorem take_succeeds_iff {parsed : Parsed} {key value : Value} :
    (∃ next, parsed.take key value = .ok next) ↔ Fits key value := by
  cases named : conventionOf? key with
  | none =>
      have step : (∃ next, parsed.take key value = .ok next) ↔ ∃ text, key.text? = some text := by
        cases shown : key.text? <;> simp [Parsed.take, named, shown]
      rw [step]
      constructor
      · rintro ⟨text, shown⟩
        exact .unknown named shown
      · rintro (⟨_, shown⟩ | ⟨known, _⟩)
        · exact ⟨_, shown⟩
        · simp [named] at known
  | some convention =>
      have step : (∃ next, parsed.take key value = .ok next) ↔ Suits convention value := by
        rw [suits_iff]
        cases value with
        | null => simp [Parsed.take, named]
        | _ => simp only [Parsed.take, named, map_succeeds_iff, apply_succeeds_iff, reduceCtorEq,
            false_or]
      rw [step]
      constructor
      · exact .known named
      · rintro (⟨unknown, _⟩ | ⟨known, suits⟩)
        · simp [named] at unknown
        · rw [named] at known
          cases known
          exact suits

theorem take_eq_tooManyDigits_iff {parsed : Parsed} {key value : Value} :
    parsed.take key value = .error .tooManyDigits ↔ IsTooLong key value := by
  cases named : conventionOf? key with
  | none =>
      have step : parsed.take key value = .error .tooManyDigits ↔ key.text? = none := by
        cases shown : key.text? <;> simp [Parsed.take, named, shown]
      rw [step]
      constructor
      · exact .key named
      · rintro (⟨_, unshown⟩ | ⟨known, _⟩)
        · exact unshown
        · simp [named] at known
  | some convention =>
      have step : parsed.take key value = .error .tooManyDigits ↔
          convention.isList = true ∧ listOf convention value = .error .tooManyDigits := by
        cases value with
        | null => simp [Parsed.take, named, listOf_null]
        | _ => simp only [Parsed.take, named, map_eq_error_iff, apply_eq_tooManyDigits_iff]
      rw [step, listOf_eq_tooManyDigits_iff]
      constructor
      · rintro ⟨isList, texts, item, rest, listed, other, unshown⟩
        exact .item named isList listed other unshown
      · rintro (⟨unknown, _⟩ | ⟨known, isList, listed, other, unshown⟩)
        · simp [named] at unknown
        · rw [named] at known
          cases known
          exact ⟨isList, _, _, _, listed, other, unshown⟩

/-! ## Mappings -/

theorem takeAll_succeeds_iff {parsed : Parsed} {entries : Entries} :
    (∃ all, parsed.takeAll entries = .ok all) ↔ ∀ entry ∈ entries, Fits entry.1 entry.2 := by
  induction entries generalizing parsed with
  | nil => simp [Parsed.takeAll]
  | cons entry rest ih =>
      rcases entry with ⟨key, value⟩
      rw [List.forall_mem_cons, ← @take_succeeds_iff parsed]
      cases taken : parsed.take key value with
      | ok next => simp [Parsed.takeAll, taken, ih]
      | error stop => simp [Parsed.takeAll, taken]

/-- Reading ends at an entry that stops it, after entries that fit. -/
theorem takeAll_eq_error_iff {stop : Stop} {Stops : Value → Value → Prop}
    (stops : ∀ {parsed : Parsed} {key value : Value},
      parsed.take key value = .error stop ↔ Stops key value)
    {parsed : Parsed} {entries : Entries} :
    parsed.takeAll entries = .error stop ↔
      ∃ before key value after, entries = before ++ (key, value) :: after ∧
        (∀ entry ∈ before, Fits entry.1 entry.2) ∧ Stops key value := by
  induction entries generalizing parsed with
  | nil => simp [Parsed.takeAll]
  | cons entry rest ih =>
      rcases entry with ⟨key, value⟩
      cases taken : parsed.take key value with
      | ok next =>
          have fits : Fits key value := take_succeeds_iff.mp ⟨next, taken⟩
          have free : ¬Stops key value := by
            rw [← @stops parsed, taken]
            simp
          have step : parsed.takeAll ((key, value) :: rest) = next.takeAll rest := by
            simp [Parsed.takeAll, taken]
          rw [step, ih]
          constructor
          · rintro ⟨before, key', value', after, split, fit, stopped⟩
            refine ⟨(key, value) :: before, key', value', after, by simp [split], ?_, stopped⟩
            exact List.forall_mem_cons.mpr ⟨fits, fit⟩
          · rintro ⟨before, key', value', after, split, fit, stopped⟩
            cases before with
            | nil =>
                cases split
                exact absurd stopped free
            | cons first others =>
                cases split
                exact ⟨others, key', value', after, rfl, (List.forall_mem_cons.mp fit).2, stopped⟩
      | error other =>
          have misfit : ¬Fits key value := by
            rw [← @take_succeeds_iff parsed, taken]
            simp
          have step : parsed.takeAll ((key, value) :: rest) = .error other := by
            simp [Parsed.takeAll, taken]
          rw [step, ← taken, stops]
          constructor
          · intro stopped
            exact ⟨[], key, value, rest, rfl, by simp, stopped⟩
          · rintro ⟨before, key', value', after, split, fit, stopped⟩
            cases before with
            | nil =>
                cases split
                exact stopped
            | cons first others =>
                cases split
                exact absurd (List.forall_mem_cons.mp fit).1 misfit

/-- Conventions are read exactly if all their entries fit. -/
theorem parseEntries_succeeds_iff {entries : Entries} :
    (∃ parsed, parseEntries entries = .ok parsed) ↔ ∀ entry ∈ entries, Fits entry.1 entry.2 :=
  takeAll_succeeds_iff

theorem parseEntries_eq_tooManyDigits_iff {entries : Entries} :
    parseEntries entries = .error .tooManyDigits ↔
      ∃ before key value after, entries = before ++ (key, value) :: after ∧
        (∀ entry ∈ before, Fits entry.1 entry.2) ∧ IsTooLong key value :=
  takeAll_eq_error_iff take_eq_tooManyDigits_iff

/-! ## Names -/

theorem conventionOf?_eq_some_iff {key : Value} {convention : Convention} :
    conventionOf? key = some convention ↔ key = .string convention.name := by
  have named : ∀ {text}, Convention.ofName? text = some convention ↔ convention.name = text := by
    intro text
    constructor
    · intro found
      have same := List.find?_some (p := fun known : Convention => known.name == text) found
      exact eq_of_beq same
    · rintro rfl
      cases convention <;> decide
  cases key with
  | string text => simp [conventionOf?, Value.string?, named, eq_comm]
  | _ => simp [conventionOf?, Value.string?]

/-- An entry that is taken up gives one name: that of a convention is recognized, and any
other is ignored. -/
theorem take_names {parsed next : Parsed} {key value : Value}
    (taken : parsed.take key value = .ok next) :
    ∃ text, key.text? = some text ∧
      if (conventionOf? key).isSome then
        next.recognized = parsed.recognized ++ [text] ∧ next.ignored = parsed.ignored
      else next.recognized = parsed.recognized ∧ next.ignored = parsed.ignored ++ [text] := by
  unfold Parsed.take at taken
  cases named : conventionOf? key with
  | none =>
      simp only [named] at taken
      cases shown : key.text? with
      | none => simp [shown] at taken
      | some text =>
          simp only [shown, Except.ok.injEq] at taken
          subst taken
          exact ⟨text, rfl, rfl, rfl⟩
  | some convention =>
      simp only [named] at taken
      refine ⟨convention.name, by rw [conventionOf?_eq_some_iff.mp named]; rfl, ?_⟩
      split at taken
      · cases taken
        exact ⟨rfl, rfl⟩
      · cases applied : apply convention value parsed.configuration with
        | error stop => simp [applied, Except.map] at taken
        | ok config =>
            simp only [applied, Except.map, Except.ok.injEq] at taken
            subst taken
            exact ⟨rfl, rfl⟩

/-- The names of all entries that are taken up are listed in order, the recognized ones in
one list and the others in the other. -/
theorem takeAll_names {entries : Entries} {parsed last : Parsed}
    (taken : parsed.takeAll entries = .ok last) :
    last.recognized.map some = parsed.recognized.map some ++
        (entries.filter fun entry => (conventionOf? entry.1).isSome).map (·.1.text?) ∧
      last.ignored.map some = parsed.ignored.map some ++
        (entries.filter fun entry => (conventionOf? entry.1).isNone).map (·.1.text?) := by
  induction entries generalizing parsed with
  | nil =>
      cases taken
      simp
  | cons entry rest ih =>
      obtain ⟨key, value⟩ := entry
      unfold Parsed.takeAll at taken
      split at taken
      · rename_i next first
        obtain ⟨recognized, ignored⟩ := ih taken
        obtain ⟨text, shown, names⟩ := take_names first
        cases named : conventionOf? key with
        | none =>
            simp only [named, Option.isSome_none, Bool.false_eq_true, if_false] at names
            simp [recognized, ignored, names, named, shown]
        | some convention =>
            simp only [named, Option.isSome_some, if_true] at names
            simp [recognized, ignored, names, named, shown]
      · cases taken

/-! ## Where a configuration comes from -/

/-- A convention does not change where its configuration comes from. -/
theorem apply_source {convention : Convention} {value : Value}
    {config changed : Configuration} (applied : apply convention value config = .ok changed) :
    changed.source = config.source := by
  unfold apply at applied
  split at applied <;>
  · obtain ⟨setting, -, rfl⟩ := map_eq_ok_iff.mp applied
    rfl

theorem Parsed.take_source {parsed next : Parsed} {key value : Value}
    (taken : parsed.take key value = .ok next) :
    next.configuration.source = parsed.configuration.source := by
  unfold Parsed.take at taken
  split at taken
  · split at taken
    · cases taken
      rfl
    · cases taken
  · split at taken
    · cases taken
      rfl
    · obtain ⟨config, applied, rfl⟩ := map_eq_ok_iff.mp taken
      exact apply_source applied

theorem Parsed.takeAll_source {entries : Entries} {parsed last : Parsed}
    (taken : parsed.takeAll entries = .ok last) :
    last.configuration.source = parsed.configuration.source := by
  induction entries generalizing parsed with
  | nil =>
      cases taken
      rfl
  | cons entry rest ih =>
      obtain ⟨key, value⟩ := entry
      unfold Parsed.takeAll at taken
      split at taken
      · rename_i next first
        exact (ih taken).trans (take_source first)
      · cases taken

end CompilePolicy.Conventions

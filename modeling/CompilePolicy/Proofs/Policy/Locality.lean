import CompilePolicy.Document.Key
import CompilePolicy.Proofs.Policy.Resolution
import Mathlib.Data.List.Basic

/-!
# Conventions one by one

Each setting of a configuration that conventions give comes from the entry of its own
convention, or is the default if there is none. Other entries count only in that all of
them are read or none: one value of the wrong type refuses the whole mapping, and the
first such value says why. A whole number with too many digits comes between, since it
ends the reading before a later value of the wrong type is seen, or while it is shown.
-/

namespace CompilePolicy.Conventions

open CompilePolicy.Document CompilePolicy.FileSystem

/-! ## Settings -/

/-- What a convention is set to. -/
inductive Setting where
  | flag (flag : Bool)
  | texts (texts : List String)
deriving DecidableEq, Repr

/-- The setting of a convention in a configuration. -/
def Convention.setting (config : Configuration) : Convention → Setting
  | .disable => .flag config.globalDisable
  | .whiteListScripts => .flag config.scriptsExempt
  | .disableDynamicCompile => .flag config.disableDynamicCompile
  | .dynamicCompileWhiteList => .texts config.classWhitelist
  | .compileStaticExtensions => .texts config.allowedExtensions
  | .limitCompileStaticExtensions => .flag config.limitExtensions
  | .defAllowed => .flag config.dynamicTypingAllowed
  | .skipDefaultPackage => .flag config.skipDefaultPackage

/-- What a value sets a convention to. Null keeps the setting that there is. -/
inductive Gives (kept : Setting) (convention : Convention) : Value → Setting → Prop
  | null : Gives kept convention .null kept
  | flag (isFlag : convention.isList = false) (flag : Bool) :
      Gives kept convention (.bool flag) (.flag flag)
  | texts {value : Value} {texts : List String} (isList : convention.isList = true)
      (listed : listed? value = some (texts.map .string)) :
      Gives kept convention value (.texts texts)

theorem Gives.unique {kept first second : Setting} {convention : Convention} {value : Value}
    (one : Gives kept convention value first) (other : Gives kept convention value second) :
    first = second := by
  cases one with
  | null =>
      cases other with
      | null => rfl
      | texts _ listed => cases listed
  | flag isFlag flag =>
      cases other with
      | flag => rfl
      | texts isList => simp [isFlag] at isList
  | texts isList listed =>
      cases other with
      | null => cases listed
      | flag isFlag => simp [isFlag] at isList
      | texts _ listedToo =>
          rw [listed, Option.some.injEq,
            List.map_inj_right fun _ _ same => Value.string.inj same] at listedToo
          rw [listedToo]

/-- A configuration is made of its settings and its source. -/
theorem eq_of_settings {first second : Configuration}
    (settings : ∀ convention : Convention, convention.setting first = convention.setting second)
    (source : first.source = second.source) : first = second := by
  cases first
  cases second
  rw [Configuration.mk.injEq]
  exact ⟨Setting.flag.inj (settings .disable), Setting.flag.inj (settings .whiteListScripts),
    Setting.flag.inj (settings .disableDynamicCompile),
    Setting.texts.inj (settings .dynamicCompileWhiteList),
    Setting.texts.inj (settings .compileStaticExtensions),
    Setting.flag.inj (settings .limitCompileStaticExtensions),
    Setting.flag.inj (settings .defAllowed), Setting.flag.inj (settings .skipDefaultPackage),
    source⟩

/-! ## Taking up entries -/

/-- A value sets its own convention. -/
theorem apply_gives {convention : Convention} {value : Value} {config next : Configuration}
    (applied : apply convention value config = .ok next) (kept : Setting) :
    Gives kept convention value (convention.setting next) := by
  cases convention with
  | dynamicCompileWhiteList =>
      obtain ⟨texts, listed, rfl⟩ := map_eq_ok_iff.mp applied
      exact .texts rfl (listOf_eq_ok_iff.mp listed)
  | compileStaticExtensions =>
      obtain ⟨texts, listed, rfl⟩ := map_eq_ok_iff.mp applied
      exact .texts rfl (listOf_eq_ok_iff.mp listed)
  | _ =>
      obtain ⟨flag, given, rfl⟩ := map_eq_ok_iff.mp applied
      rw [flagOf_eq_ok_iff.mp given]
      exact .flag rfl flag

/-- A value leaves the other conventions. -/
theorem apply_keeps {convention other : Convention} {value : Value} {config next : Configuration}
    (applied : apply convention value config = .ok next) (different : other ≠ convention) :
    other.setting next = other.setting config := by
  unfold apply at applied
  split at applied <;>
  · obtain ⟨setting, -, rfl⟩ := map_eq_ok_iff.mp applied
    cases other <;> first | rfl | exact absurd rfl different

section

variable {parsed next : Parsed} {key value : Value} {convention : Convention}

/-- An entry sets the convention that its key names. -/
theorem take_gives (own : conventionOf? key = some convention)
    (taken : parsed.take key value = .ok next) :
    Gives (convention.setting parsed.configuration) convention value
      (convention.setting next.configuration) := by
  unfold Parsed.take at taken
  simp only [own] at taken
  split at taken
  · cases taken
    exact .null
  · obtain ⟨config, applied, rfl⟩ := map_eq_ok_iff.mp taken
    exact apply_gives applied _

/-- An entry leaves all other conventions. -/
theorem take_keeps (other : conventionOf? key ≠ some convention)
    (taken : parsed.take key value = .ok next) :
    convention.setting next.configuration = convention.setting parsed.configuration := by
  unfold Parsed.take at taken
  split at taken
  · split at taken
    · cases taken
      rfl
    · cases taken
  · rename_i named own
    split at taken
    · cases taken
      rfl
    · obtain ⟨config, applied, rfl⟩ := map_eq_ok_iff.mp taken
      exact apply_keeps applied fun same => other (same ▸ own)

theorem takeAll_cons_eq_ok_iff {last : Parsed} {rest : Entries} :
    parsed.takeAll ((key, value) :: rest) = .ok last ↔
      ∃ next, parsed.take key value = .ok next ∧ next.takeAll rest = .ok last := by
  rw [Parsed.takeAll]
  cases parsed.take key value <;> simp

end

/-! ## Mappings -/

/-- The keys of a mapping are distinct. -/
def AreDistinct (entries : Entries) : Prop :=
  entries.Pairwise fun first second => sameValue first.1 second.1 = false

theorem get?_cons (key value : Value) (rest : Entries) (name : String) :
    Entries.get? ((key, value) :: rest) name =
      if key.string? = some name then some value else Entries.get? rest name := by
  unfold Entries.get?
  rw [List.find?_cons]
  by_cases own : key.string? = some name
  · simp [own]
  · rw [if_neg own, beq_eq_false_iff_ne.mpr own]

/-- The value under a text is that of the one entry that has the text as its key. -/
theorem get?_eq_some_iff {entries : Entries} (distinct : AreDistinct entries) {name : String}
    {value : Value} : entries.get? name = some value ↔ (.string name, value) ∈ entries := by
  induction entries with
  | nil => simp [Entries.get?]
  | cons entry rest ih =>
      obtain ⟨key, own⟩ := entry
      obtain ⟨apart, others⟩ := List.pairwise_cons.mp distinct
      rw [get?_cons, List.mem_cons, Prod.mk.injEq]
      by_cases same : key = .string name
      · have gone : (Value.string name, value) ∉ rest := by
          intro listed
          have differs := apart _ listed
          simp [same, sameValue] at differs
        simp [same, gone, Value.string?, eq_comm]
      · rw [if_neg (mt Value.string?_eq_some_iff.mp same), ih others]
        simp [eq_comm, same]

/-- A mapping sets a convention as the value under its name does, where a missing value
counts as null. -/
theorem takeAll_gives {entries : Entries} (distinct : AreDistinct entries) {parsed last : Parsed}
    (taken : parsed.takeAll entries = .ok last) (convention : Convention) :
    Gives (convention.setting parsed.configuration) convention (entries.get convention.name)
      (convention.setting last.configuration) := by
  induction entries generalizing parsed with
  | nil =>
      cases taken
      exact .null
  | cons entry rest ih =>
      obtain ⟨key, value⟩ := entry
      obtain ⟨next, first, later⟩ := takeAll_cons_eq_ok_iff.mp taken
      obtain ⟨apart, others⟩ := List.pairwise_cons.mp distinct
      have given := ih others later
      by_cases own : conventionOf? key = some convention
      · have isName := conventionOf?_eq_some_iff.mp own
        -- Keys are distinct, so the rest keeps what this entry sets.
        have missing : Entries.get? rest convention.name = none := by
          rw [Option.eq_none_iff_forall_ne_some]
          intro again listed
          have differs := apart _ ((get?_eq_some_iff others).mp listed)
          simp [isName, sameValue] at differs
        rw [Entries.get, missing, Option.getD_none] at given
        rw [Entries.get, get?_cons, if_pos (Value.string?_eq_some_iff.mpr isName), Option.getD_some,
          given.unique .null]
        exact take_gives own first
      · have isOther : key ≠ .string convention.name := mt conventionOf?_eq_some_iff.mpr own
        rw [Entries.get, get?_cons, if_neg (mt Value.string?_eq_some_iff.mp isOther),
          ← take_keeps own first]
        exact given

/-! ## Values of the wrong type -/

/-- An entry sets a convention to a value of the wrong type. -/
def IsIllTyped (key value : Value) : Prop :=
  ∃ convention, conventionOf? key = some convention ∧ ¬Suits convention value

/-- Why a convention refuses a value. -/
inductive Refuses (convention : Convention) : Value → Fault → Prop
  | flag {value : Value} (isFlag : convention.isList = false) (given : value ≠ .null)
      (other : ∀ flag, value ≠ .bool flag) :
      Refuses convention value (.notFlag convention value.typeName)
  | list {value : Value} (isList : convention.isList = true) (given : value ≠ .null)
      (unlisted : listed? value = none) :
      Refuses convention value (.notList convention value.typeName)
  | item {value item : Value} {texts : List String} {rest : List Value} {shown : String}
      (isList : convention.isList = true)
      (listed : listed? value = some (texts.map .string ++ item :: rest))
      (other : item.string? = none) (isShown : item.shown? = some shown) :
      Refuses convention value (.notString convention shown)

/-- An entry is refused: it sets a convention that refuses its value. -/
def IsRefused (fault : Fault) (key value : Value) : Prop :=
  ∃ convention, conventionOf? key = some convention ∧ Refuses convention value fault

/-- A refusal names the convention. -/
theorem Refuses.message {convention : Convention} {value : Value} {fault : Fault}
    (refuses : Refuses convention value fault) :
    ∃ reason, fault.message = "Convention '" ++ convention.name ++ ("' must " ++ reason) := by
  have named : ∀ (wanted reason shown : String), wanted = "' must " ++ reason →
      "Convention '" ++ convention.name ++ wanted ++ shown =
        "Convention '" ++ convention.name ++ ("' must " ++ (reason ++ shown)) := by
    intro wanted reason shown split
    rw [split, @String.append_assoc _ _ shown, @String.append_assoc _ _ shown]
  cases refuses with
  | flag => exact ⟨_, named "' must be a boolean, got " "be a boolean, got " _ (by decide)⟩
  | list =>
      exact ⟨_, named "' must be a list of strings, got " "be a list of strings, got " _
        (by decide)⟩
  | item =>
      exact ⟨_, named "' must only contain strings, got " "only contain strings, got " _
        (by decide)⟩

theorem flagOf_eq_refused_iff {convention : Convention} {value : Value} {fault : Fault} :
    flagOf convention value = .error (.refused fault) ↔
      (∀ flag, value ≠ .bool flag) ∧ fault = .notFlag convention value.typeName := by
  unfold flagOf
  cases value <;> simp [eq_comm]

theorem stopAt_eq_refused_iff {convention : Convention} {item : Value} {fault : Fault} :
    stopAt convention item = .refused fault ↔
      ∃ shown, item.shown? = some shown ∧ fault = .notString convention shown := by
  unfold stopAt
  cases item.shown? <;> simp [eq_comm]

/-- A convention refuses the values that it does not suit, but for those that are too
long to be shown. -/
theorem apply_eq_refused_iff {convention : Convention} {value : Value} {config : Configuration}
    {fault : Fault} (given : value ≠ .null) :
    apply convention value config = .error (.refused fault) ↔ Refuses convention value fault := by
  rw [apply_eq_error_iff]
  constructor
  · intro failed
    cases isList : convention.isList with
    | false =>
        rw [isList] at failed
        obtain ⟨other, rfl⟩ := flagOf_eq_refused_iff.mp failed
        exact .flag isList given other
    | true =>
        rw [isList, if_pos rfl, listOf_eq] at failed
        cases listed : listed? value with
        | none =>
            simp only [listed, Except.error.injEq, Stop.refused.injEq] at failed
            rw [← failed]
            exact .list isList given listed
        | some items =>
            simp only [listed] at failed
            obtain ⟨texts, item, rest, rfl, other, stops⟩ := stringsOf_eq_error_iff.mp failed
            obtain ⟨shown, isShown, rfl⟩ := stopAt_eq_refused_iff.mp stops
            exact .item isList listed other isShown
  · intro refuses
    cases refuses with
    | flag isFlag _ other =>
        rw [isFlag]
        exact flagOf_eq_refused_iff.mpr ⟨other, rfl⟩
    | list isList _ unlisted => rw [isList, if_pos rfl, listOf_eq, unlisted]
    | item isList listed other isShown =>
        rw [isList, if_pos rfl, listOf_eq, listed]
        exact stringsOf_eq_error_iff.mpr
          ⟨_, _, _, rfl, other, stopAt_eq_refused_iff.mpr ⟨_, isShown, rfl⟩⟩

theorem not_refuses_null {convention : Convention} {fault : Fault} :
    ¬Refuses convention .null fault := by
  rintro (⟨-, given, -⟩ | ⟨-, given, -⟩ | ⟨-, listed, -⟩)
  · exact given rfl
  · exact given rfl
  · cases listed

/-- An entry of a convention is taken up by setting it, unless its value is null. -/
theorem take_of_known {convention : Convention} {parsed : Parsed} {key value : Value}
    (own : conventionOf? key = some convention) (given : value ≠ .null) :
    parsed.take key value =
      (apply convention value parsed.configuration).map fun configuration =>
        { parsed with
          configuration, recognized := parsed.recognized ++ [convention.name] } := by
  unfold Parsed.take
  rw [own]
  dsimp only
  split
  · exact absurd rfl given
  · rfl

theorem take_eq_refused_iff {fault : Fault} {parsed : Parsed} {key value : Value} :
    parsed.take key value = .error (.refused fault) ↔ IsRefused fault key value := by
  unfold IsRefused
  cases own : conventionOf? key with
  | none =>
      have unrefused : parsed.take key value ≠ .error (.refused fault) := by
        cases shown : key.text? <;> simp [Parsed.take, own, shown]
      simp [unrefused]
  | some convention =>
      simp only [Option.some.injEq, exists_eq_left']
      by_cases null : value = .null
      · simp [null, Parsed.take, own, not_refuses_null]
      · rw [take_of_known own null, map_eq_error_iff, apply_eq_refused_iff null]

/-- An entry that does not fit is refused, or too long. -/
theorem not_fits_iff {key value : Value} :
    ¬Fits key value ↔ (∃ fault, IsRefused fault key value) ∨ IsTooLong key value := by
  let parsed : Parsed := { configuration := {} }
  rw [← @take_succeeds_iff parsed, ← @take_eq_tooManyDigits_iff parsed]
  simp only [← @take_eq_refused_iff _ parsed]
  cases parsed.take key value with
  | ok next => simp
  | error stop => cases stop <;> simp

/-- An entry fits if its value is of the right type and it is not too long. -/
theorem fits_iff {key value : Value} :
    Fits key value ↔ ¬IsIllTyped key value ∧ ¬IsTooLong key value := by
  constructor
  · intro fits
    refine ⟨?_, fun tooLong => not_fits_iff.mpr (.inr tooLong) fits⟩
    rintro ⟨convention, own, unsuited⟩
    rcases fits with ⟨unknown, -⟩ | ⟨known, suits⟩
    · rw [own] at unknown
      cases unknown
    · rw [own, Option.some.injEq] at known
      exact unsuited (known ▸ suits)
  · rintro ⟨typed, short⟩
    by_contra misfit
    obtain ⟨fault, convention, own, refuses⟩ := (not_fits_iff.mp misfit).resolve_right short
    refine typed ⟨convention, own, fun suits => ?_⟩
    exact misfit (.known own suits)

/-- A refused entry has a value of the wrong type. -/
theorem isIllTyped_of_isRefused {fault : Fault} {key value : Value}
    (refused : IsRefused fault key value) : IsIllTyped key value := by
  obtain ⟨convention, own, refuses⟩ := refused
  exact ⟨convention, own, fun suits =>
    not_fits_iff.mpr (.inl ⟨fault, convention, own, refuses⟩) (.known own suits)⟩

/-! ## Reading a mapping -/

/-- Reading ends at an entry of some kind, after entries that fit. -/
def EndsAt (entries : Entries) (kind : Value → Value → Prop) : Prop :=
  ∃ before key value after, entries = before ++ (key, value) :: after ∧
    (∀ entry ∈ before, Fits entry.1 entry.2) ∧ kind key value

/-- What is read from a mapping: each setting is what its own entry gives, and each key is
listed once by its text, among the known ones or the unknown ones, in document order. -/
structure Parsed.Reflects (parsed : Parsed) (entries : Entries) : Prop where
  source : parsed.configuration.source = "conventions"
  settings : ∀ convention : Convention,
    Gives (convention.setting {}) convention (entries.get convention.name)
      (convention.setting parsed.configuration)
  recognized : parsed.recognized.map some =
    (entries.filter fun entry => (conventionOf? entry.1).isSome).map (·.1.text?)
  ignored : parsed.ignored.map some =
    (entries.filter fun entry => (conventionOf? entry.1).isNone).map (·.1.text?)
  whole : parsed.recognized.length + parsed.ignored.length = entries.length

theorem parseEntries_eq_refused_iff {entries : Entries} {fault : Fault} :
    parseEntries entries = .error (.refused fault) ↔ EndsAt entries (IsRefused fault) :=
  takeAll_eq_error_iff take_eq_refused_iff

theorem parseEntries_reflects {entries : Entries} (distinct : AreDistinct entries) {parsed : Parsed}
    (read : parseEntries entries = .ok parsed) : parsed.Reflects entries := by
  obtain ⟨recognized, ignored⟩ := takeAll_names read
  rw [List.map_nil, List.nil_append] at recognized ignored
  refine ⟨Parsed.takeAll_source read, fun convention => ?_, recognized, ignored, ?_⟩
  · have given := takeAll_gives distinct read convention
    cases convention <;> exact given
  · have known := congrArg List.length recognized
    have unknown := congrArg List.length ignored
    rw [List.length_map, List.length_map] at known unknown
    rw [known, unknown, entries.length_eq_length_filter_add fun entry =>
      (conventionOf? entry.1).isSome]
    simp only [Option.not_isSome]

/-- Two mappings with the same entries for conventions, in any order, have the same values
under their names. -/
theorem get_perm {entries others : Entries} (distinct : AreDistinct entries)
    (distinctToo : AreDistinct others)
    (same : (entries.filter fun entry => (conventionOf? entry.1).isSome).Perm
      (others.filter fun entry => (conventionOf? entry.1).isSome)) (convention : Convention) :
    entries.get convention.name = others.get convention.name := by
  have known : (conventionOf? (.string convention.name)).isSome = true := by
    rw [conventionOf?_eq_some_iff.mpr rfl]
    rfl
  have both : ∀ value, entries.get? convention.name = some value ↔
      others.get? convention.name = some value := by
    intro value
    have listed := @same.mem_iff _ (.string convention.name, value)
    rw [List.mem_filter, List.mem_filter] at listed
    rw [get?_eq_some_iff distinct, get?_eq_some_iff distinctToo]
    simpa [known] using listed
  rw [Entries.get, Entries.get, Option.ext both]

/-- Nothing is read from a mapping with a value of the wrong type. -/
theorem parseEntries_ne_ok {entries : Entries} {entry : Value × Value} (listed : entry ∈ entries)
    (ill : IsIllTyped entry.1 entry.2) (parsed : Parsed) : parseEntries entries ≠ .ok parsed := by
  intro read
  have fits := parseEntries_succeeds_iff.mp ⟨parsed, read⟩ entry listed
  exact (fits_iff.mp fits).1 ill

/-- A refusal comes from the first entry that does not fit, and names its key. -/
theorem names_of_refused {entries : Entries} {fault : Fault}
    (refused : parseEntries entries = .error (.refused fault)) :
    EndsAt entries fun key ill => IsIllTyped key ill ∧ ∃ convention reason,
      key = .string (Convention.name convention) ∧
        fault.message = "Convention '" ++ convention.name ++ ("' must " ++ reason) := by
  obtain ⟨before, key, ill, after, split, fit, isRefused⟩ := parseEntries_eq_refused_iff.mp refused
  refine ⟨before, key, ill, after, split, fit, isIllTyped_of_isRefused isRefused, ?_⟩
  obtain ⟨convention, own, refuses⟩ := isRefused
  obtain ⟨reason, message⟩ := refuses.message
  exact ⟨convention, reason, conventionOf?_eq_some_iff.mp own, message⟩

/-- A value of the wrong type is the only reason for a refusal, and without too long entries
it is reason enough. -/
theorem exists_refused_iff {entries : Entries}
    (short : ∀ entry ∈ entries, ¬IsTooLong entry.1 entry.2) :
    (∃ fault, parseEntries entries = .error (.refused fault)) ↔
      ∃ entry ∈ entries, IsIllTyped entry.1 entry.2 := by
  constructor
  · rintro ⟨fault, refused⟩
    obtain ⟨before, key, ill, after, rfl, -, isRefused⟩ := parseEntries_eq_refused_iff.mp refused
    exact ⟨(key, ill), by simp, isIllTyped_of_isRefused isRefused⟩
  · rintro ⟨entry, listed, ill⟩
    cases result : parseEntries entries with
    | ok parsed => exact absurd result (parseEntries_ne_ok listed ill parsed)
    | error stop =>
        cases stop with
        | refused fault => exact ⟨fault, rfl⟩
        | tooManyDigits =>
            obtain ⟨before, key, long, after, rfl, -, tooLong⟩ :=
              parseEntries_eq_tooManyDigits_iff.mp result
            exact absurd tooLong (short (key, long) (by simp))

/-- A mapping is read as a whole or not at all. -/
structure IsReadWhole (value : Value) (entries : Entries) : Prop where
  succeeds : (∃ parsed, parse value = .ok parsed) ↔
    ∀ entry ∈ entries, ¬IsIllTyped entry.1 entry.2 ∧ ¬IsTooLong entry.1 entry.2
  refused : ∀ fault, parse value = .error (.refused fault) ↔ EndsAt entries (IsRefused fault)
  names : ∀ fault, parse value = .error (.refused fault) → EndsAt entries fun key ill =>
    IsIllTyped key ill ∧ ∃ convention reason, key = .string (Convention.name convention) ∧
      fault.message = "Convention '" ++ convention.name ++ ("' must " ++ reason)
  ended : parse value = .error .tooManyDigits ↔ EndsAt entries IsTooLong
  typed : (∀ entry ∈ entries, ¬IsTooLong entry.1 entry.2) →
    ((∃ fault, parse value = .error (.refused fault)) ↔
      ∃ entry ∈ entries, IsIllTyped entry.1 entry.2)
  reflects : ∀ parsed, parse value = .ok parsed → parsed.Reflects entries

theorem isReadWhole {value : Value} {entries : Entries} (mapping : value.entries? = some entries)
    (distinct : AreDistinct entries) : IsReadWhole value entries := by
  have read : parse value = parseEntries entries := by rw [parse, mapping]
  exact {
    succeeds := by simp only [read, parseEntries_succeeds_iff, fits_iff]
    refused := fun fault => read ▸ parseEntries_eq_refused_iff
    names := fun fault refused => names_of_refused (read ▸ refused)
    ended := read ▸ parseEntries_eq_tooManyDigits_iff
    typed := fun short => read ▸ exists_refused_iff short
    reflects := fun parsed whole => parseEntries_reflects distinct (read ▸ whole) }

/-! ## Sources -/

theorem parseSource_of_load {files : Files} {source : String} {entries : Entries}
    (loaded : load files source = .ok entries) :
    parseSource files source = (parseEntries entries).mapError Stop.sourceFault := by
  unfold parseSource
  rw [loaded]

/-- A source with a value of the wrong type gives way to the defaults, unless the reading
ends for want of digits. -/
theorem resolveSource_of_isIllTyped {files : Files} {source : String} {entries : Entries}
    (loaded : load files source = .ok entries) {entry : Value × Value} (listed : entry ∈ entries)
    (ill : IsIllTyped entry.1 entry.2) :
    (EndsAt entries IsTooLong → resolveSource files source = .error .tooManyDigits) ∧
      (¬EndsAt entries IsTooLong → ∃ fault, EndsAt entries (IsRefused fault) ∧
        resolveSource files source =
          .ok ({ configuration := {} }, [SourceFault.record (.refused fault)])) := by
  have parsed := parseSource_of_load loaded
  constructor
  · intro ends
    rw [parseEntries_eq_tooManyDigits_iff.mpr ends, Except.mapError] at parsed
    exact resolveSource_of_unreplaced parsed rfl
  · intro lasts
    cases result : parseEntries entries with
    | ok whole => exact absurd result (parseEntries_ne_ok listed ill whole)
    | error stop =>
        cases stop with
        | tooManyDigits => exact absurd (parseEntries_eq_tooManyDigits_iff.mp result) lasts
        | refused fault =>
            refine ⟨fault, parseEntries_eq_refused_iff.mp result, ?_⟩
            rw [result, Except.mapError, Stop.sourceFault] at parsed
            unfold resolveSource
            rw [parsed]
            rfl

/-- Conventions are local, and they are read as a whole or not at all. A mapping is refused
at its first value of the wrong type. If there is none, each setting depends on the value
under its own name only, and neither unknown keys nor the order of keys count. A source
with such a value gives way to all defaults. In each case it can be a whole number with too
many digits that ends the reading instead. -/
theorem conventions_are_local {value : Value} {entries : Entries}
    (mapping : value.entries? = some entries) (distinct : AreDistinct entries) :
    IsReadWhole value entries ∧
    (∀ other others parsed parsedToo, other.entries? = some others → AreDistinct others →
      parse value = .ok parsed → parse other = .ok parsedToo →
      (∀ convention : Convention, entries.get convention.name = others.get convention.name →
        convention.setting parsed.configuration = convention.setting parsedToo.configuration) ∧
      ((entries.filter fun entry => (conventionOf? entry.1).isSome).Perm
          (others.filter fun entry => (conventionOf? entry.1).isSome) →
        parsed.configuration = parsedToo.configuration)) ∧
    ∀ files source, load files source = .ok entries →
      (∃ entry ∈ entries, IsIllTyped entry.1 entry.2) →
      (EndsAt entries IsTooLong → resolveSource files source = .error .tooManyDigits) ∧
      (¬EndsAt entries IsTooLong → ∃ fault, EndsAt entries (IsRefused fault) ∧
        resolveSource files source =
          .ok ({ configuration := {} }, [SourceFault.record (.refused fault)])) := by
  refine ⟨isReadWhole mapping distinct, ?_, ?_⟩
  · intro other others parsed parsedToo mappingToo distinctToo read readToo
    have one := (isReadWhole mapping distinct).reflects parsed read
    have two := (isReadWhole mappingToo distinctToo).reflects parsedToo readToo
    have own : ∀ convention : Convention,
        entries.get convention.name = others.get convention.name →
        convention.setting parsed.configuration = convention.setting parsedToo.configuration := by
      intro convention same
      have given := one.settings convention
      rw [same] at given
      exact given.unique (two.settings convention)
    refine ⟨own, fun same => ?_⟩
    exact eq_of_settings (fun convention => own convention (get_perm distinct distinctToo same _))
      (one.source.trans two.source.symm)
  · rintro files source loaded ⟨entry, listed, ill⟩
    exact resolveSource_of_isIllTyped loaded listed ill

/-- A mapping with an unknown key, and one without it in another order. -/
theorem conventions_are_local_at_unknown_key :
    let extensions : Value × Value := (.string "compileStaticExtensions", .string "a")
    let disable : Value × Value := (.string "disable", .bool true)
    let entries : Entries := [(.int 7, .list []), disable, extensions]
    let others : Entries := [extensions, disable]
    AreDistinct entries ∧ AreDistinct others ∧ ∃ parsed parsedToo,
      parse (.map entries) = .ok parsed ∧ parse (.map others) = .ok parsedToo ∧
        parsed.Reflects entries ∧ parsed.configuration = parsedToo.configuration := by
  intro extensions disable entries others
  have distinct : AreDistinct entries := by
    unfold AreDistinct
    decide
  have distinctToo : AreDistinct others := by
    unfold AreDistinct
    decide
  obtain ⟨reads, locally, -⟩ := @conventions_are_local (.map entries) entries rfl distinct
  have read : ∃ parsed, parse (.map entries) = .ok parsed := ⟨_, rfl⟩
  have readToo : ∃ parsed, parse (.map others) = .ok parsed := ⟨_, rfl⟩
  obtain ⟨parsed, read⟩ := read
  obtain ⟨parsedToo, readToo⟩ := readToo
  have same := (locally (.map others) others parsed parsedToo rfl distinctToo read readToo).2
  exact ⟨distinct, distinctToo, parsed, parsedToo, read, readToo, reads.reflects parsed read,
    same (.swap extensions disable [])⟩

/-- An unknown key of too many digits ends the reading before a value of the wrong type is
seen. In the other order the value is refused. -/
theorem long_key_hides_wrong_type :
    let long : Int := Int.ofNat (Nat.pow 16 3600)
    let entries : Entries := [(.int long, .int 1), (.string "disable", .int 5)]
    IsIllTyped (.string "disable") (.int 5) ∧ parse (.map entries) = .error .tooManyDigits ∧
      parse (.map entries.reverse) = .error (.refused (.notFlag .disable "int")) := by
  intro long entries
  refine ⟨⟨.disable, by decide, ?_⟩, by decide +kernel, by decide +kernel⟩
  rw [suits_iff]
  simp [Convention.isList]

end CompilePolicy.Conventions

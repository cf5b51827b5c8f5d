import CompilePolicy.Proofs.Policy.Resolution
import CompilePolicy.Proofs.Text.Cutting
import Mathlib.Data.List.DropRight
import Mathlib.Data.List.Nodup

/-!
# How a property is given

A known property can be given by its environment variable or by an item, and the
conventions by an option of their own as well. The variable and the option give the
same. An item gives what the variable would give for the trimmed text: a flag is trimmed
whenever it is read, so this makes no difference to it, but a console session needs a
text that is not empty, and in a source of conventions the blanks in front of the first
line are part of the document.
-/

namespace CompilePolicy

open Conventions Document FileSystem Journal

/-! ## Trimming -/

/-- What is trimmed has nothing left to trim. -/
theorem Text.trimWhere_trimWhere (p : Char → Bool) (chars : List Char) :
    trimWhere p (trimWhere p chars) = trimWhere p chars := by
  change ((chars.dropWhile p).rdropWhile p |>.dropWhile p).rdropWhile p =
    (chars.dropWhile p).rdropWhile p
  have front : ((chars.dropWhile p).rdropWhile p).dropWhile p =
      (chars.dropWhile p).rdropWhile p := by
    rw [List.dropWhile_eq_self_iff]
    intro filled
    obtain ⟨back, whole⟩ := List.rdropWhile_prefix p (chars.dropWhile p)
    have first : (chars.dropWhile p).head? =
        some (((chars.dropWhile p).rdropWhile p).get ⟨0, filled⟩) :=
      calc (chars.dropWhile p).head?
        _ = ((chars.dropWhile p).rdropWhile p ++ back).head? := by rw [whole]
        _ = ((chars.dropWhile p).rdropWhile p).head? :=
          List.head?_append_of_ne_nil _ (List.ne_nil_of_length_pos filled)
        _ = some (((chars.dropWhile p).rdropWhile p).get ⟨0, filled⟩) := by
          rw [List.head?_eq_getElem?, List.getElem?_eq_getElem filled, List.get_eq_getElem]
    have kept := List.head?_dropWhile_not p chars
    rw [first] at kept
    simpa using kept
  rw [front, List.rdropWhile_idempotent]

theorem Text.trim_trim (text : String) : trim (trim text) = trim text := by
  unfold trim trimChars
  rw [String.toList_ofList, trimWhere_trimWhere]

namespace Properties

/-! ## Names and items -/

/-- The known properties have different variables. -/
theorem variableName_injOn {p q : String} (isKnown : p ∈ known) (other : q ∈ known)
    (same : variableName p = variableName q) : p = q := by
  have distinct : (known.map variableName).Nodup := by decide +kernel
  exact List.inj_on_of_nodup_map distinct isKnown other same

/-- An item gives a known property the trimmed text behind its equals sign. -/
theorem ofItem_known {p : String} (isKnown : p ∈ known) (text : String) :
    ofItem (p ++ "=" ++ text) = .ok (p, Text.trim text) := by
  have plain : ∀ name ∈ known,
      '=' ∉ name.toList ∧ name.toList.isEmpty = false ∧ Text.trim name = name := by
    decide +kernel
  rcases plain p isKnown with ⟨free, filled, trimmed⟩
  have cut : Text.cutAtFirst? '=' (p ++ "=" ++ text).toList = some (p.toList, text.toList) :=
    Text.cutAtFirst?_eq_some_iff.mpr ⟨by simp, free⟩
  unfold ofItem
  rw [cut]
  simp [filled, trimmed]

/-- The environment sets the known properties whose variables are set. -/
theorem lookup_ofVariables (vars : Variables) (name : String) :
    (ofVariables vars).lookup name =
      if name ∈ known then vars.lookup (variableName name) else none := by
  unfold ofVariables
  induction known with
  | nil => rfl
  | cons first rest ih =>
      by_cases same : name = first
      · subst same
        cases value : vars.lookup (variableName name) with
        | none =>
            simp only [List.filterMap_cons, value, Option.map_none, ih]
            simp
        | some text => simp [value]
      · cases value : vars.lookup (variableName first) with
        | none =>
            simp only [List.filterMap_cons, value, Option.map_none, ih]
            simp [same]
        | some text =>
            have different : (name == first) = false := beq_eq_false_iff_ne.mpr same
            simp only [List.filterMap_cons, value, Option.map_some, List.lookup_cons, different, ih]
            simp [same]

/-! ## Setting one property more -/

/-- Properties that say what others say, except that one of them has a value of its own,
or none. -/
structure Sets (name : String) (value : Option String) (base more : Properties) : Prop where
  self : more.lookup name = value
  others : ∀ other, other ≠ name → more.lookup other = base.lookup other

/-- Setting a property sets it. -/
theorem sets_setField (name text : String) (base : Properties) :
    Sets name (some text) base (setField base name text) where
  self := lookup_setField_self base name text
  others _ different := lookup_setField_of_ne base text different

/-- A variable sets its property. -/
theorem sets_ofVariables {p : String} (isKnown : p ∈ known) (text : String) (vars : Variables) :
    Sets p (some text) (ofVariables vars) (ofVariables (setField vars (variableName p) text)) where
  self := by
    rw [lookup_ofVariables, if_pos isKnown, lookup_setField_self]
  others other different := by
    rw [lookup_ofVariables, lookup_ofVariables]
    by_cases otherKnown : other ∈ known
    · have apart : variableName other ≠ variableName p := fun same =>
        different (variableName_injOn otherKnown isKnown same)
      rw [if_pos otherKnown, if_pos otherKnown, lookup_setField_of_ne _ _ apart]
    · rw [if_neg otherKnown, if_neg otherKnown]

variable {p text : String} {value : Option String} {base more : Properties}

/-- A property keeps its value when another one is set. -/
theorem Sets.setField_of_ne (sets : Sets p value base more) {name : String} (different : name ≠ p)
    (text : String) : Sets p value (setField base name text) (setField more name text) where
  self := by rw [lookup_setField_of_ne _ _ (Ne.symm different), sets.self]
  others other apart := by
    by_cases same : other = name
    · subst same
      rw [lookup_setField_self, lookup_setField_self]
    · rw [lookup_setField_of_ne _ _ same, lookup_setField_of_ne _ _ same, sets.others other apart]

/-- Two ways to give a property one value say the same. -/
theorem Sets.lookup_eq {again : Properties} (sets : Sets p value base more)
    (setsAgain : Sets p value base again) (name : String) :
    more.lookup name = again.lookup name := by
  by_cases same : name = p
  · rw [same, sets.self, setsAgain.self]
  · rw [sets.others name same, setsAgain.others name same]

/-- What is read with one property more: the same bad item, or properties that say the
same except for it. -/
def SetsRead (p : String) (value : Option String) (base more : Except BadItem Properties) :
    Prop :=
  match base with
  | .error bad => more = .error bad
  | .ok properties => ∃ others, more = .ok others ∧ Sets p value properties others

/-- Items that say nothing about a property leave it its value. -/
theorem Sets.setItems {items : List String} (sets : Sets p value base more)
    (silent : ∀ item ∈ items, ∀ given, ofItem item ≠ .ok (p, given)) :
    SetsRead p value (setItems base items) (setItems more items) := by
  induction items generalizing base more with
  | nil => exact ⟨more, rfl, sets⟩
  | cons item rest ih =>
      cases read : ofItem item with
      | error bad => simp [SetsRead, Properties.setItems, read]
      | ok entry =>
          obtain ⟨key, given⟩ := entry
          have different : key ≠ p := fun same =>
            silent item List.mem_cons_self given (by rw [read, same])
          simp only [Properties.setItems, read]
          exact ih (sets.setField_of_ne different given) fun other member =>
            silent other (List.mem_cons_of_mem _ member)

/-- Items are taken up one after the other. -/
theorem setItems_append (base : Properties) (before after : List String) :
    setItems base (before ++ after) = (setItems base before).bind (setItems · after) := by
  induction before generalizing base with
  | nil => rfl
  | cons item rest ih =>
      simp only [List.cons_append, setItems]
      cases ofItem item with
      | error bad => rfl
      | ok entry => exact ih _

/-- An item among others that say nothing about its property sets it. -/
theorem setItems_insert {before after : List String} {item : String}
    (read : ofItem item = .ok (p, text))
    (silent : ∀ other ∈ before ++ after, ∀ given, ofItem other ≠ .ok (p, given)) :
    SetsRead p (some text) (setItems base (before ++ after))
      (setItems base (before ++ item :: after)) := by
  rw [setItems_append, setItems_append]
  cases setItems base before with
  | error bad => rfl
  | ok reached =>
      change SetsRead p (some text) (setItems reached after) (setItems reached (item :: after))
      simp only [setItems, read]
      exact (sets_setField p text reached).setItems fun other member =>
        silent other (List.mem_append_right before member)

/-- What the options of their own set, after all items. -/
def finish (options : Options) (properties : Properties) : Properties :=
  let withConventions := setConventions properties options.conventions
  if options.console then setField withConventions console "true" else withConventions

theorem build_eq (vars : Variables) (options : Options) :
    build vars options = (setItems (ofVariables vars) options.items).map (finish options) :=
  rfl

/-- No variable, no item and no option of its own sets a property. -/
structure IsUnset (vars : Variables) (options : Options) (p : String) : Prop where
  environment : vars.lookup (variableName p) = none
  items : ∀ item ∈ options.items, ∀ text, ofItem item ≠ .ok (p, text)
  conventions : p = Properties.conventions → options.conventions.getD "" = ""
  console : p = Properties.console → options.console = false

/-- A conventions option that is empty sets nothing. -/
theorem setConventions_of_empty {option : Option String} (empty : option.getD "" = "")
    (properties : Properties) : setConventions properties option = properties := by
  cases option with
  | none => rfl
  | some source =>
      have blank : source = "" := empty
      simp [setConventions, blank]

theorem setConventions_of_filled {source : String} (filled : source ≠ "")
    (properties : Properties) :
    setConventions properties (some source) =
      setField properties Properties.conventions source := by
  simp [setConventions, filled]

/-- Options of their own that say nothing about a property leave it its value. -/
theorem Sets.finish {options : Options} (sets : Sets p value base more)
    (noConventions : p = Properties.conventions → options.conventions.getD "" = "")
    (noConsole : p = Properties.console → options.console = false) :
    Sets p value (finish options base) (finish options more) := by
  have withConventions : Sets p value (setConventions base options.conventions)
      (setConventions more options.conventions) := by
    by_cases empty : options.conventions.getD "" = ""
    · rw [setConventions_of_empty empty, setConventions_of_empty empty]
      exact sets
    · cases given : options.conventions with
      | none => simp [given] at empty
      | some source =>
          have filled : source ≠ "" := by simpa [given] using empty
          rw [setConventions_of_filled filled, setConventions_of_filled filled]
          exact sets.setField_of_ne (fun same => empty (noConventions same.symm)) source
  unfold Properties.finish
  cases given : options.console with
  | false => exact withConventions
  | true =>
      refine withConventions.setField_of_ne (fun same => ?_) "true"
      rw [noConsole same.symm] at given
      cases given

/-- What is read with one property more stays so up to the end. -/
theorem SetsRead.map {read readMore : Except BadItem Properties} {finish finishMore :
    Properties → Properties} (sets : SetsRead p value read readMore)
    (kept : ∀ base more, Sets p value base more → Sets p value (finish base) (finishMore more)) :
    SetsRead p value (read.map finish) (readMore.map finishMore) := by
  cases read with
  | error bad =>
      rw [show readMore = .error bad from sets]
      rfl
  | ok properties =>
      obtain ⟨others, rfl, inner⟩ := sets
      exact ⟨_, rfl, kept _ _ inner⟩

/-! ## Resolving -/

/-- What the environment and options resolve to, with the records of it. A bad item
gives nothing. -/
def resolvedUnder (files : Files) (vars : Variables) (options : Options) :
    Except BadItem (Except SourceFault (Configuration × List Record)) :=
  (build vars options).map (resolveConfiguration files)

/-- Properties that say the same resolve to the same. Outside a console session the
source of conventions has to be the same, and in one the flags. -/
theorem resolveConfiguration_congr (files : Files) {left right : Properties}
    (sameConsole : (left.textOf? console).isSome = (right.textOf? console).isSome)
    (sameFlags : ∀ name, name ≠ console → name ≠ conventions → ∀ default,
      left.flag name default = right.flag name default)
    (sameSource : left.textOf? console = none →
      left.textOf? conventions = right.textOf? conventions) :
    resolveConfiguration files left = resolveConfiguration files right := by
  cases isConsole : left.textOf? console with
  | some session =>
      have alike : consoleConfiguration left = consoleConfiguration right := by
        unfold consoleConfiguration
        rw [sameFlags disable (by decide) (by decide), sameFlags defAllowed (by decide) (by decide),
          sameFlags disableDynamicCompile (by decide) (by decide)]
      unfold resolveConfiguration
      rw [← sameConsole, isConsole, alike]
      rfl
  | none =>
      unfold resolveConfiguration
      rw [← sameConsole, sameSource isConsole, isConsole]
      rfl

theorem textOf?_congr {left right : Properties} {name : String}
    (same : left.lookup name = right.lookup name) : left.textOf? name = right.textOf? name := by
  unfold textOf?
  rw [same]

theorem flag_congr {left right : Properties} {name : String}
    (same : left.lookup name = right.lookup name) (default : Bool) :
    left.flag name default = right.flag name default := by
  unfold flag
  rw [same]

theorem textOf?_of_lookup {properties : Properties} {name text : String}
    (set : properties.lookup name = some text) :
    properties.textOf? name = if text = "" then none else some text := by
  unfold textOf?
  rw [set]

/-- Two ways to give a property one value resolve to the same. -/
theorem Sets.resolveConfiguration_eq {again : Properties} (sets : Sets p value base more)
    (setsAgain : Sets p value base again) (files : Files) :
    resolveConfiguration files more = resolveConfiguration files again :=
  resolveConfiguration_congr files
    (congrArg Option.isSome (textOf?_congr (sets.lookup_eq setsAgain console)))
    (fun name _ _ => flag_congr (sets.lookup_eq setsAgain name))
    (fun _ => textOf?_congr (sets.lookup_eq setsAgain conventions))

/-- Outside a console session only the source of conventions counts. -/
theorem resolveConfiguration_of_conventions {properties : Properties} {source : String}
    (outside : properties.textOf? console = none)
    (set : properties.lookup conventions = some source) (files : Files) :
    resolveConfiguration files properties =
      resolveConfiguration files [(conventions, source)] := by
  have sourceAlone : Properties.textOf? [(conventions, source)] conventions =
      properties.textOf? conventions := by
    rw [textOf?_of_lookup set]
    exact textOf?_of_lookup rfl
  unfold resolveConfiguration
  rw [outside, sourceAlone, show Properties.textOf? [(conventions, source)] console = none from rfl]
  rfl

end Properties

/-! ## Where a configuration comes from -/

/-- What a source of conventions gives comes from conventions. -/
theorem Conventions.parseSource_source {files : Files} {source : String} {parsed : Parsed}
    (read : parseSource files source = .ok parsed) :
    parsed.configuration.source = "conventions" := by
  unfold parseSource at read
  split at read
  · cases read
  · rename_i entries loaded
    cases all : parseEntries entries with
    | error stop => simp [all, Except.mapError] at read
    | ok whole =>
        simp only [all, Except.mapError, Except.ok.injEq] at read
        subst read
        exact Parsed.takeAll_source all

/-- Outside a console session no configuration says that it comes from one. -/
theorem resolveConfiguration_source_ne {files : Files} {properties : Properties}
    {config : Configuration} {records : List Record}
    (outside : properties.textOf? Properties.console = none)
    (resolved : resolveConfiguration files properties = .ok (config, records)) :
    config.source ≠ "console" := by
  simp only [resolveConfiguration, outside, Option.isSome_none, Bool.false_eq_true, if_false]
    at resolved
  split at resolved
  · rename_i source led
    obtain ⟨⟨parsed, read⟩, found, same⟩ := map_eq_ok_iff.mp resolved
    cases same
    unfold resolveSource at found
    split at found
    · rename_i whole ok
      cases found
      rw [parseSource_source ok]
      decide
    · split at found
      · cases found
        change "defaults" ≠ "console"
        decide
      · cases found
  · cases resolved
    decide

/-- A configuration says that it comes from a console session exactly if it does. -/
theorem source_eq_console_iff {files : Files} {properties : Properties} {config : Configuration}
    {records : List Record}
    (resolved : resolveConfiguration files properties = .ok (config, records)) :
    config.source = "console" ↔ properties.textOf? Properties.console ≠ none := by
  cases session : properties.textOf? Properties.console with
  | none => simpa using resolveConfiguration_source_ne session resolved
  | some text =>
      unfold resolveConfiguration at resolved
      rw [session, Option.isSome_some, if_pos rfl] at resolved
      cases resolved
      simp [consoleConfiguration]

namespace Properties

/-! ## Giving a property in one way or another -/

variable {files : Files} {vars : Variables} {options : Options}

/-- A property that nothing sets has no value. -/
theorem IsUnset.setsRead_none (unset : IsUnset vars options p) :
    SetsRead p none (build vars options) (build vars options) := by
  have unsetFirst : Sets p none (ofVariables vars) (ofVariables vars) := by
    refine ⟨?_, fun _ _ => rfl⟩
    rw [lookup_ofVariables, unset.environment, ite_self]
  rw [build_eq]
  exact (unsetFirst.setItems unset.items).map fun _ _ sets =>
    sets.finish unset.conventions unset.console

/-- Giving a property by its variable sets it. -/
theorem IsUnset.setsRead_variable (unset : IsUnset vars options p) (isKnown : p ∈ known)
    (text : String) :
    SetsRead p (some text) (build vars options)
      (build (setField vars (variableName p) text) options) := by
  rw [build_eq, build_eq]
  exact ((sets_ofVariables isKnown text vars).setItems unset.items).map fun _ _ sets =>
    sets.finish unset.conventions unset.console

/-- Giving a property by an item sets it to the trimmed text. -/
theorem IsUnset.setsRead_item (unset : IsUnset vars options p) (isKnown : p ∈ known)
    {before after : List String} (split : options.items = before ++ after) (text : String) :
    SetsRead p (some (Text.trim text)) (build vars options)
      (build vars { options with items := before ++ (p ++ "=" ++ text) :: after }) := by
  have inserted : SetsRead p (some (Text.trim text)) (setItems (ofVariables vars) (before ++ after))
      (setItems (ofVariables vars) (before ++ (p ++ "=" ++ text) :: after)) :=
    setItems_insert (ofItem_known isKnown text) (split ▸ unset.items)
  rw [build_eq, build_eq, split]
  exact inserted.map fun _ _ sets => sets.finish unset.conventions unset.console

/-- Giving conventions by their own option sets them, if there is a text. -/
theorem IsUnset.setsRead_option (unset : IsUnset vars options Properties.conventions)
    {text : String} (filled : text ≠ "") :
    SetsRead Properties.conventions (some text) (build vars options)
      (build vars { options with conventions := some text }) := by
  rw [build_eq, build_eq]
  cases setItems (ofVariables vars) options.items with
  | error bad => rfl
  | ok properties =>
      refine ⟨_, rfl, ?_⟩
      have unsetOption := setConventions_of_empty (unset.conventions rfl) properties
      have sets := sets_setField Properties.conventions text properties
      unfold Properties.finish
      simp only [unsetOption, setConventions_of_filled filled]
      cases options.console with
      | false => exact sets
      | true => exact sets.setField_of_ne (by decide) "true"

/-- What gives a property one value resolves to the same in the end. -/
theorem SetsRead.resolved_eq {read first second : Except BadItem Properties}
    (setsFirst : SetsRead p value read first) (setsSecond : SetsRead p value read second) :
    first.map (resolveConfiguration files) = second.map (resolveConfiguration files) := by
  cases read with
  | error bad =>
      rw [show first = .error bad from setsFirst, show second = .error bad from setsSecond]
  | ok properties =>
      obtain ⟨more, rfl, sets⟩ := setsFirst
      obtain ⟨again, rfl, setsAgain⟩ := setsSecond
      exact congrArg Except.ok (sets.resolveConfiguration_eq setsAgain files)

/-- Conventions without a text are none, by their option or by their variable. -/
theorem IsUnset.resolvedUnder_empty (unset : IsUnset vars options Properties.conventions)
    (files : Files) :
    resolvedUnder files vars { options with conventions := some "" } =
      resolvedUnder files (setField vars (variableName Properties.conventions) "") options := by
  have same : build vars { options with conventions := some "" } = build vars options := by
    rw [build_eq, build_eq]
    unfold Properties.finish
    have empty : (some "").getD "" = "" := rfl
    simp only [setConventions_of_empty (unset.conventions rfl), setConventions_of_empty empty]
  have byNone := unset.setsRead_none
  have byVariable := unset.setsRead_variable (by decide) ""
  unfold resolvedUnder
  rw [same]
  cases built : build vars options with
  | error bad =>
      rw [built] at byVariable
      rw [show build _ options = .error bad from byVariable]
  | ok properties =>
      rw [built] at byNone byVariable
      obtain ⟨others, readOthers, unsetNone⟩ := byNone
      cases readOthers
      obtain ⟨more, readMore, sets⟩ := byVariable
      rw [readMore]
      refine congrArg Except.ok (resolveConfiguration_congr files ?_ ?_ ?_)
      · rw [textOf?_congr (sets.others _ (by decide))]
      · exact fun name _ different default => (flag_congr (sets.others name different) default).symm
      · intro _
        unfold textOf?
        rw [unsetNone.self, sets.self]
        rfl

variable {again : Properties}

/-- A flag is the same for a text and the trimmed text. -/
theorem Sets.flag_trim (sets : Sets p (some text) base more)
    (trimmed : Sets p (some (Text.trim text)) base again) (name : String) (default : Bool) :
    again.flag name default = more.flag name default := by
  by_cases same : name = p
  · subst same
    unfold flag
    rw [sets.self, trimmed.self]
    simp only [Text.trim_trim]
  · exact flag_congr ((trimmed.others name same).trans (sets.others name same).symm) default

/-- The other properties stand for the same texts. -/
theorem Sets.textOf?_of_ne (sets : Sets p value base more) {name : String} (different : name ≠ p) :
    more.textOf? name = base.textOf? name :=
  textOf?_congr (sets.others name different)

/-- Only blanks ask for a console session by a text and not by the trimmed text. -/
theorem Sets.resolveConfiguration_trim_console_iff (sets : Sets console (some text) base more)
    (trimmed : Sets console (some (Text.trim text)) base again) :
    resolveConfiguration files again = resolveConfiguration files more ↔
      (Text.trim text = "" → text = "") := by
  constructor
  · intro same blank
    by_contra filled
    have session : more.textOf? console = some text := by
      rw [textOf?_of_lookup sets.self, if_neg filled]
    have outside : again.textOf? console = none := by
      rw [textOf?_of_lookup trimmed.self, if_pos blank]
    have resolved : resolveConfiguration files more =
        .ok (consoleConfiguration more, [(consoleConfiguration more).record]) := by
      unfold resolveConfiguration
      rw [session]
      rfl
    exact resolveConfiguration_source_ne outside (same.trans resolved) rfl
  · intro blank
    have others : again.textOf? conventions = more.textOf? conventions :=
      (trimmed.textOf?_of_ne (by decide)).trans (sets.textOf?_of_ne (by decide)).symm
    refine resolveConfiguration_congr files ?_ (fun name _ _ => sets.flag_trim trimmed name)
      fun _ => others
    rw [textOf?_of_lookup sets.self, textOf?_of_lookup trimmed.self]
    by_cases empty : text = ""
    · subst empty
      rfl
    · rw [if_neg empty, if_neg (mt blank empty)]
      rfl

/-- Conventions and the trimmed conventions resolve to the same in a console session, and
outside of one if they do so as sources. -/
theorem Sets.resolveConfiguration_trim_conventions_iff
    (sets : Sets conventions (some text) base more)
    (trimmed : Sets conventions (some (Text.trim text)) base again) :
    resolveConfiguration files again = resolveConfiguration files more ↔
      (base.textOf? console = none →
        resolveConfiguration files [(conventions, Text.trim text)] =
          resolveConfiguration files [(conventions, text)]) := by
  have apart : console ≠ conventions := by decide
  cases isConsole : base.textOf? console with
  | none =>
      have outside := (sets.textOf?_of_ne apart).trans isConsole
      have outsideAgain := (trimmed.textOf?_of_ne apart).trans isConsole
      rw [resolveConfiguration_of_conventions outside sets.self,
        resolveConfiguration_of_conventions outsideAgain trimmed.self]
      exact ⟨fun same _ => same, fun same => same rfl⟩
  | some session =>
      refine iff_of_true ?_ (fun outside => by cases outside)
      refine resolveConfiguration_congr files ?_ (fun name _ _ => sets.flag_trim trimmed name) ?_
      · rw [sets.textOf?_of_ne apart, trimmed.textOf?_of_ne apart]
      · intro outside
        rw [trimmed.textOf?_of_ne apart, isConsole] at outside
        cases outside

/-- A text and the trimmed text resolve to the same, except where only blanks ask for a
console session and where the trimmed text is another source of conventions. -/
theorem Sets.resolveConfiguration_trim_iff (sets : Sets p (some text) base more)
    (trimmed : Sets p (some (Text.trim text)) base again) :
    resolveConfiguration files again = resolveConfiguration files more ↔
      (p = console → Text.trim text = "" → text = "") ∧
      (p = conventions → base.textOf? console = none →
        resolveConfiguration files [(conventions, Text.trim text)] =
          resolveConfiguration files [(conventions, text)]) := by
  have apart : console ≠ conventions := by decide
  by_cases isConsole : p = console
  · subst isConsole
    rw [sets.resolveConfiguration_trim_console_iff trimmed]
    exact ⟨fun blank => ⟨fun _ => blank, fun same => absurd same apart⟩, fun both => both.1 rfl⟩
  · by_cases isConventions : p = conventions
    · subst isConventions
      rw [sets.resolveConfiguration_trim_conventions_iff trimmed]
      exact ⟨fun source => ⟨fun same => absurd same isConsole, fun _ => source⟩,
        fun both => both.2 rfl⟩
    · have others : ∀ name, name ≠ p → again.textOf? name = more.textOf? name :=
        fun _ different => (trimmed.textOf?_of_ne different).trans
          (sets.textOf?_of_ne different).symm
      refine iff_of_true ?_
        ⟨fun same => absurd same isConsole, fun same => absurd same isConventions⟩
      refine resolveConfiguration_congr files ?_ (fun name _ _ => sets.flag_trim trimmed name)
        fun _ => others conventions (Ne.symm isConventions)
      rw [others console (Ne.symm isConsole)]

/-- A known property that nothing else sets gives the same by its variable and, if it is
the conventions, by their own option. By an item it gives what the trimmed text gives by
the variable, and this is what the text itself gives except in two cases: only blanks ask
for a console session by the variable alone, and outside a console session the trimmed
text may be another source of conventions. A bad item among the others is met in every
way. -/
theorem delivery_agrees_up_to_trimming (files : Files) {vars : Variables} {options : Options}
    {p : String} (isKnown : p ∈ known) (unset : IsUnset vars options p)
    {before after : List String} (split : options.items = before ++ after) (text : String) :
    let byVariable text := resolvedUnder files (setField vars (variableName p) text) options
    let byItem text := resolvedUnder files vars
      { options with items := before ++ (p ++ "=" ++ text) :: after }
    let byOption text := resolvedUnder files vars { options with conventions := some text }
    (p = conventions → byOption text = byVariable text) ∧
    byItem text = byVariable (Text.trim text) ∧
    (∀ bad, build vars options = .error bad →
      byVariable text = .error bad ∧ byItem text = .error bad) ∧
    ∀ properties, build vars options = .ok properties →
      (byItem text = byVariable text ↔
        (p = console → Text.trim text = "" → text = "") ∧
        (p = conventions → properties.textOf? console = none →
          resolveConfiguration files [(conventions, Text.trim text)] =
            resolveConfiguration files [(conventions, text)])) := by
  intro byVariable byItem byOption
  have setsVariable := fun text => unset.setsRead_variable isKnown text
  have setsItem := unset.setsRead_item isKnown split text
  refine ⟨?_, setsItem.resolved_eq (setsVariable _), ?_, ?_⟩
  · rintro rfl
    by_cases filled : text = ""
    · subst filled
      exact unset.resolvedUnder_empty files
    · exact (unset.setsRead_option filled).resolved_eq (setsVariable text)
  · intro bad failed
    have failedVariable := setsVariable text
    rw [failed] at failedVariable setsItem
    exact ⟨congrArg (Except.map _) failedVariable, congrArg (Except.map _) setsItem⟩
  · intro properties built
    have builtVariable := setsVariable text
    rw [built] at builtVariable setsItem
    obtain ⟨more, readMore, sets⟩ := builtVariable
    obtain ⟨again, readAgain, trimmed⟩ := setsItem
    rw [← sets.resolveConfiguration_trim_iff trimmed]
    change Except.map _ _ = Except.map _ _ ↔ _
    rw [readMore, readAgain]
    exact ⟨fun same => Except.ok.inj same, fun same => congrArg Except.ok same⟩

/-- Only blanks ask for a console session by the variable, and not by an item. -/
theorem delivery_differs_at_blank_console :
    resolvedUnder .empty [] { items := ["enterprise.groovy.console= "] } ≠
      resolvedUnder .empty [("ENTERPRISE_GROOVY_CONSOLE", " ")] {} := by
  have unset : IsUnset [] {} console :=
    ⟨rfl, by simp, fun _ => rfl, fun _ => rfl⟩
  have isKnown : console ∈ known := by decide
  have alone : ({} : Options).items = [] ++ [] := rfl
  obtain ⟨-, -, -, exactly⟩ := delivery_agrees_up_to_trimming .empty isKnown unset alone " "
  intro same
  have blank := ((exactly [] rfl).mp same).1 rfl (by decide)
  exact absurd blank (by decide)

/-- An indented document is read by the option of its own and by the variable. An item
trims the indentation of its first line only, which leaves no document, and the defaults
take its place. -/
theorem item_loses_indented_conventions :
    let document := "  disable: true\n  defAllowed: false"
    let given : Configuration :=
      { globalDisable := true, dynamicTypingAllowed := false, source := "conventions" }
    let configuration (vars : Variables) (options : Options) : Option Configuration :=
      ((resolvedUnder .empty vars options).toOption.bind (·.toOption)).map (·.1)
    configuration [] { conventions := some document } = some given ∧
    configuration [("ENTERPRISE_GROOVY_CONVENTIONS", document)] {} = some given ∧
    configuration [] { items := ["enterprise.groovy.conventions=" ++ document] } = some {} := by
  decide +kernel

end Properties

end CompilePolicy

import CompilePolicy.Proofs.Policy.Delivery

/-!
# Which source of a property wins

Four sources set properties one after the other: the environment, the items, the option for
conventions and the one for a console session. The later ones win, and of the items that
give one key the last one does. An item without a key ends the whole with its own fault.

Main statement: `properties_follow_precedence`, the fault of the first bad item, or for
every key the value that prevails.
-/

namespace CompilePolicy.Properties

open Document

/-! ## What an item says -/

/-- An item gives a key a value: they are the trimmed texts in front of its first equals
sign, where something stands, and behind it. -/
def Gives (item key value : String) : Prop :=
  ∃ front back, item.toList = front ++ '=' :: back ∧ '=' ∉ front ∧ front ≠ [] ∧
    key = Text.trim (String.ofList front) ∧ value = Text.trim (String.ofList back)

/-- An item is bad: it has no equals sign, or nothing in front of its first one. -/
def IsBad (item : String) : Prop :=
  '=' ∉ item.toList ∨ item.toList.head? = some '='

variable {item key value : String} {bad : BadItem}

theorem ofItem_eq_ok_iff : ofItem item = .ok (key, value) ↔ Gives item key value := by
  unfold ofItem Gives
  cases cut : Text.cutAtFirst? '=' item.toList with
  | none =>
      have free := Text.cutAtFirst?_eq_none_iff.mp cut
      refine iff_of_false (fun read => by cases read) ?_
      rintro ⟨front, back, whole, -⟩
      exact free (whole ▸ by simp)
  | some parts =>
      obtain ⟨front, back⟩ := parts
      have unique : ∀ first rest, item.toList = first ++ '=' :: rest → '=' ∉ first →
          first = front ∧ rest = back := by
        intro first rest whole free
        have again := Text.cutAtFirst?_eq_some_iff.mpr ⟨whole, free⟩
        rw [cut, Option.some.injEq, Prod.mk.injEq] at again
        exact ⟨again.1.symm, again.2.symm⟩
      obtain ⟨whole, free⟩ := Text.cutAtFirst?_eq_some_iff.mp cut
      by_cases empty : front = []
      · refine iff_of_false (by simp [empty]) ?_
        rintro ⟨first, rest, again, none, filled, -⟩
        exact filled ((unique first rest again none).1.trans empty)
      · simp only [List.isEmpty_iff, empty, if_false, Except.ok.injEq, Prod.mk.injEq]
        constructor
        · rintro ⟨rfl, rfl⟩
          exact ⟨front, back, whole, free, empty, rfl, rfl⟩
        · rintro ⟨first, rest, again, none, -, rfl, rfl⟩
          obtain ⟨rfl, rfl⟩ := unique first rest again none
          exact ⟨rfl, rfl⟩

theorem ofItem_eq_error_iff : ofItem item = .error bad ↔ IsBad item ∧ bad.item = item := by
  have named : ∀ bad : BadItem, (⟨item⟩ : BadItem) = bad ↔ bad.item = item := by
    rintro ⟨name⟩
    simp [eq_comm]
  unfold ofItem IsBad
  cases cut : Text.cutAtFirst? '=' item.toList with
  | none =>
      have free := Text.cutAtFirst?_eq_none_iff.mp cut
      simp [free, named]
  | some parts =>
      obtain ⟨front, back⟩ := parts
      obtain ⟨whole, free⟩ := Text.cutAtFirst?_eq_some_iff.mp cut
      cases front with
      | nil => simp [whole, named]
      | cons first more =>
          rw [List.mem_cons, not_or] at free
          simp [whole, Ne.symm free.1]

theorem not_isBad_of_ofItem {entry : String × String} (read : ofItem item = .ok entry) :
    ¬IsBad item := by
  intro isBad
  have refused : ofItem item = .error ⟨item⟩ := ofItem_eq_error_iff.mpr ⟨isBad, rfl⟩
  rw [read] at refused
  cases refused

/-! ## The first bad item -/

/-- An item is the first bad one. -/
def IsFirstBad (items : List String) (item : String) : Prop :=
  ∃ before after, items = before ++ item :: after ∧ IsBad item ∧ ∀ other ∈ before, ¬IsBad other

variable {items : List String} {base properties : Properties}

/-- A bad item that ends the reading is the first one. -/
theorem isFirstBad_of_setItems (read : setItems base items = .error bad) :
    IsFirstBad items bad.item := by
  induction items generalizing base with
  | nil => cases read
  | cons item rest ih =>
      simp only [setItems] at read
      cases first : ofItem item with
      | error fault =>
          rw [first] at read
          cases read
          obtain ⟨isBad, named⟩ := ofItem_eq_error_iff.mp first
          exact ⟨[], rest, by rw [named]; rfl, named ▸ isBad, by simp⟩
      | ok entry =>
          rw [first] at read
          obtain ⟨before, after, split, isBad, good⟩ := ih read
          exact ⟨item :: before, after, by rw [split]; rfl, isBad,
            List.forall_mem_cons.mpr ⟨not_isBad_of_ofItem first, good⟩⟩

/-- Items are taken up one after the other. -/
theorem setItems_cons_eq_ok {rest : List String}
    (read : setItems base (item :: rest) = .ok properties) :
    ∃ key value, ofItem item = .ok (key, value) ∧
      setItems (setField base key value) rest = .ok properties := by
  simp only [setItems] at read
  cases first : ofItem item with
  | error bad =>
      rw [first] at read
      cases read
  | ok entry =>
      rw [first] at read
      exact ⟨entry.1, entry.2, rfl, read⟩

/-- Where all items are taken up none is bad. -/
theorem not_isBad_of_setItems (read : setItems base items = .ok properties) :
    ∀ item ∈ items, ¬IsBad item := by
  induction items generalizing base with
  | nil => simp
  | cons item rest ih =>
      obtain ⟨key, value, first, later⟩ := setItems_cons_eq_ok read
      exact List.forall_mem_cons.mpr ⟨not_isBad_of_ofItem first, ih later⟩

/-! ## The last item for a key -/

/-- No item gives a key. -/
def AreSilent (items : List String) (key : String) : Prop :=
  ∀ item ∈ items, ∀ value, ¬Gives item key value

/-- The last item that gives a key gives it a value. -/
def LastGives (items : List String) (key value : String) : Prop :=
  ∃ before item after, items = before ++ item :: after ∧ Gives item key value ∧
    AreSilent after key

theorem lastGives_or_areSilent (items : List String) (key : String) :
    (∃ value, LastGives items key value) ∨ AreSilent items key := by
  induction items with
  | nil => exact .inr (by simp [AreSilent])
  | cons item rest ih =>
      rcases ih with ⟨value, before, last, after, rfl, gives, silent⟩ | silent
      · exact .inl ⟨value, item :: before, last, after, rfl, gives, silent⟩
      · by_cases gives : ∃ value, Gives item key value
        · obtain ⟨value, gives⟩ := gives
          exact .inl ⟨value, [], item, rest, rfl, gives, silent⟩
        · exact .inr (List.forall_mem_cons.mpr ⟨not_exists.mp gives, silent⟩)

/-- Items that do not give a key leave it as it was. -/
theorem lookup_setItems_of_areSilent (silent : AreSilent items key)
    (read : setItems base items = .ok properties) :
    properties.lookup key = base.lookup key := by
  induction items generalizing base with
  | nil =>
      cases read
      rfl
  | cons item rest ih =>
      obtain ⟨notThis, notLater⟩ := List.forall_mem_cons.mp silent
      obtain ⟨other, given, first, later⟩ := setItems_cons_eq_ok read
      have different : key ≠ other := by
        rintro rfl
        exact notThis given (ofItem_eq_ok_iff.mp first)
      rw [ih notLater later, lookup_setField_of_ne _ _ different]

/-- The last item that gives a key sets it, whatever the others say. -/
theorem lookup_setItems_of_lastGives (last : LastGives items key value)
    (read : setItems base items = .ok properties) : properties.lookup key = some value := by
  obtain ⟨before, item, after, rfl, gives, silent⟩ := last
  rw [setItems_append] at read
  cases reached : setItems base before with
  | error bad =>
      rw [reached] at read
      cases read
  | ok earlier =>
      rw [reached] at read
      have goesOn : setItems (setField earlier key value) after = .ok properties := by
        simpa only [Except.bind, setItems, ofItem_eq_ok_iff.mpr gives] using read
      rw [lookup_setItems_of_areSilent silent goesOn, lookup_setField_self]

/-! ## Options of their own -/

/-- An option of its own sets a key: a console session is asked for, or conventions are
given by a text that is not empty. -/
def HasOption (options : Options) (key : String) : Prop :=
  (key = console ∧ options.console = true) ∨
    key = conventions ∧ options.conventions.getD "" ≠ ""

variable {vars : Variables} {options : Options}

theorem lookup_finish_of_console (asked : options.console = true) (properties : Properties) :
    (finish options properties).lookup console = some "true" := by
  unfold finish
  rw [asked]
  exact lookup_setField_self _ _ _

theorem lookup_setConventions_of_ne (different : key ≠ conventions) (option : Option String)
    (properties : Properties) :
    (setConventions properties option).lookup key = properties.lookup key := by
  unfold setConventions
  split
  · split
    · rfl
    · exact lookup_setField_of_ne _ _ different
  · rfl

theorem lookup_finish_of_ne_console (different : key ≠ console) (options : Options)
    (properties : Properties) :
    (finish options properties).lookup key =
      (setConventions properties options.conventions).lookup key := by
  unfold finish
  dsimp only
  split
  · exact lookup_setField_of_ne _ _ different
  · rfl

theorem lookup_finish_of_conventions {source : String}
    (given : options.conventions = some source) (filled : source ≠ "")
    (properties : Properties) :
    (finish options properties).lookup conventions = some source := by
  rw [lookup_finish_of_ne_console (by decide), given, setConventions_of_filled filled]
  exact lookup_setField_self _ _ _

/-- Options of their own leave the other keys as they were. -/
theorem lookup_finish_of_not_hasOption (noOption : ¬HasOption options key)
    (properties : Properties) :
    (finish options properties).lookup key = properties.lookup key := by
  rw [HasOption, not_or, not_and, not_and, not_not] at noOption
  obtain ⟨noConsole, noConventions⟩ := noOption
  have kept : (setConventions properties options.conventions).lookup key =
      properties.lookup key := by
    by_cases same : key = conventions
    · rw [setConventions_of_empty (noConventions same)]
    · exact lookup_setConventions_of_ne same _ _
  by_cases same : key = console
  · unfold finish
    simp only [noConsole same]
    exact kept
  · rw [lookup_finish_of_ne_console same, kept]

/-! ## The value that prevails -/

/-- What a key has in the end. The constructors stand in the order of precedence. -/
inductive Prevails (vars : Variables) (options : Options) (key : String) :
    Option String → Prop where
  | console (isConsole : key = Properties.console) (asked : options.console = true) :
      Prevails vars options key (some "true")
  | conventions {source : String} (isConventions : key = Properties.conventions)
      (given : options.conventions = some source) (filled : source ≠ "") :
      Prevails vars options key (some source)
  | item {value : String} (noOption : ¬HasOption options key)
      (last : LastGives options.items key value) : Prevails vars options key (some value)
  | environment {value : String} (noOption : ¬HasOption options key)
      (silent : AreSilent options.items key) (isKnown : key ∈ known)
      (set : vars.lookup (variableName key) = some value) : Prevails vars options key (some value)
  | nothing (noOption : ¬HasOption options key) (silent : AreSilent options.items key)
      (unset : key ∈ known → vars.lookup (variableName key) = none) :
      Prevails vars options key none

/-- For every key something prevails. -/
theorem exists_prevails (vars : Variables) (options : Options) (key : String) :
    ∃ value, Prevails vars options key value := by
  by_cases option : HasOption options key
  · rcases option with ⟨isConsole, asked⟩ | ⟨isConventions, filled⟩
    · exact ⟨_, .console isConsole asked⟩
    · cases given : options.conventions with
      | none => simp [given] at filled
      | some source => exact ⟨_, .conventions isConventions given (by simpa [given] using filled)⟩
  · rcases lastGives_or_areSilent options.items key with ⟨value, last⟩ | silent
    · exact ⟨_, .item option last⟩
    · by_cases isKnown : key ∈ known
      · cases set : vars.lookup (variableName key) with
        | none => exact ⟨_, .nothing option silent fun _ => set⟩
        | some value => exact ⟨_, .environment option silent isKnown set⟩
      · exact ⟨_, .nothing option silent fun listed => absurd listed isKnown⟩

/-- What prevails is what the key has when all sources are through. -/
theorem Prevails.lookup_finish {value : Option String} (prevails : Prevails vars options key value)
    (read : setItems (ofVariables vars) options.items = .ok properties) :
    (finish options properties).lookup key = value := by
  cases prevails with
  | console isConsole asked => rw [isConsole, lookup_finish_of_console asked]
  | conventions isConventions given filled =>
      rw [isConventions, lookup_finish_of_conventions given filled]
  | item noOption last =>
      rw [lookup_finish_of_not_hasOption noOption, lookup_setItems_of_lastGives last read]
  | environment noOption silent isKnown set =>
      rw [lookup_finish_of_not_hasOption noOption, lookup_setItems_of_areSilent silent read,
        lookup_ofVariables, if_pos isKnown, set]
  | nothing noOption silent unset =>
      rw [lookup_finish_of_not_hasOption noOption, lookup_setItems_of_areSilent silent read,
        lookup_ofVariables]
      split
      · exact unset ‹_›
      · rfl

/-- Properties are refused for the first bad item, which the message names, and given if no
item is bad. Then every key has what prevails for it, and no other value: what its own option
sets, else what the last item for it says, else what its variable says if it is known. -/
theorem properties_follow_precedence (vars : Variables) (options : Options) :
    match build vars options with
    | .error bad =>
        IsFirstBad options.items bad.item ∧
          bad.message = "expected key=value, got '" ++ bad.item ++ "'"
    | .ok properties =>
        (∀ item ∈ options.items, ¬IsBad item) ∧
          ∀ key value, properties.lookup key = value ↔ Prevails vars options key value := by
  rw [build_eq]
  cases read : setItems (ofVariables vars) options.items with
  | error bad => exact ⟨isFirstBad_of_setItems read, rfl⟩
  | ok properties =>
      refine ⟨not_isBad_of_setItems read, fun key value => ⟨?_, fun prevails =>
        prevails.lookup_finish read⟩⟩
      rintro rfl
      obtain ⟨value, prevails⟩ := exists_prevails vars options key
      rw [prevails.lookup_finish read]
      exact prevails

example :
    let options : Options :=
      { items := ["a =1", "enterprise.groovy.console=no", "a= 2=3 "], console := true }
    (build [] options).toOption = some [("a", "2=3"), (console, "true")] := by
  decide +kernel

end CompilePolicy.Properties

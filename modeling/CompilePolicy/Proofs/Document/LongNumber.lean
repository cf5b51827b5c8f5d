import CompilePolicy.Document.Render

/-!
# Values without a text

Only a whole number of more than 4300 digits has no text, so a value without one
holds such a number somewhere. Opening a knot brings no number into a value that was
not in it.
-/

namespace CompilePolicy.Document

open CompilePolicy.Decimal

/-- A whole number with too many digits to be shown is a value or somewhere in it. -/
inductive HoldsLong : Value → Prop
  | int {number : Int} (long : maxDigits < (digits 10 number.natAbs).length) :
      HoldsLong (.int number)
  | item {items : List Value} {item : Value} (inside : item ∈ items) (long : HoldsLong item) :
      HoldsLong (.list items)
  | first {first second : Value} (long : HoldsLong first) : HoldsLong (.pair first second)
  | second {first second : Value} (long : HoldsLong second) : HoldsLong (.pair first second)
  | member {members : List Value} {item : Value} (inside : item ∈ members)
      (long : HoldsLong item) : HoldsLong (.set members)
  | key {entries : Entries} {entry : Value × Value} (inside : entry ∈ entries)
      (long : HoldsLong entry.1) : HoldsLong (.map entries)
  | value {entries : Entries} {entry : Value × Value} (inside : entry ∈ entries)
      (long : HoldsLong entry.2) : HoldsLong (.map entries)
  | knot {label : Nat} {body : Value} (long : HoldsLong body) : HoldsLong (.knot label body)

theorem not_holdsLong_string (text : String) : ¬HoldsLong (.string text) :=
  nofun

theorem holdsLong_list_iff {items : List Value} :
    HoldsLong (.list items) ↔ ∃ item ∈ items, HoldsLong item := by
  constructor
  · rintro (_ | ⟨inside, long⟩)
    exact ⟨_, inside, long⟩
  · rintro ⟨item, inside, long⟩
    exact .item inside long

theorem holdsLong_map_iff {entries : Entries} :
    HoldsLong (.map entries) ↔ ∃ entry ∈ entries, HoldsLong entry.1 ∨ HoldsLong entry.2 := by
  constructor
  · intro long
    cases long with
    | key inside long => exact ⟨_, inside, .inl long⟩
    | value inside long => exact ⟨_, inside, .inr long⟩
  · rintro ⟨entry, inside, long | long⟩
    · exact .key inside long
    · exact .value inside long

/-! ## Showing values -/

mutual

/-- A value that cannot be shown holds a long number. -/
theorem holdsLong_of_unshownWithin {within : List Nat} :
    ∀ {value : Value}, shownWithin? within value = none → HoldsLong value
  | .int number, unshown => by
      refine .int ?_
      simpa [shownWithin?, intText?] using unshown
  | .list items, unshown => by
      have inItems : shownItems? within items = none := by
        simpa [shownWithin?] using unshown
      rcases holdsLong_of_unshownItems inItems with ⟨item, inside, long⟩
      exact .item inside long
  | .pair first second, unshown => by
      cases shown : shownWithin? within first with
      | none => exact .first (holdsLong_of_unshownWithin shown)
      | some text =>
          have inSecond : shownWithin? within second = none := by
            simpa [shownWithin?, shown] using unshown
          exact .second (holdsLong_of_unshownWithin inSecond)
  | .set members, unshown => by
      have inMembers : shownItems? within members = none := by
        simpa [shownWithin?] using unshown
      rcases holdsLong_of_unshownItems inMembers with ⟨item, inside, long⟩
      exact .member inside long
  | .map entries, unshown => by
      have inEntries : shownEntries? within entries = none := by
        simpa [shownWithin?] using unshown
      rcases holdsLong_of_unshownEntries inEntries with ⟨entry, inside, long | long⟩
      · exact .key inside long
      · exact .value inside long
  | .knot label body, unshown => by
      by_cases around : label ∈ within
      · simp [shownWithin?, around] at unshown
      · have inBody : shownWithin? (label :: within) body = none := by
          simpa [shownWithin?, around] using unshown
        exact .knot (holdsLong_of_unshownWithin inBody)

theorem holdsLong_of_unshownItems {within : List Nat} :
    ∀ {items : List Value}, shownItems? within items = none → ∃ item ∈ items, HoldsLong item
  | item :: rest, unshown => by
      cases shown : shownWithin? within item with
      | none => exact ⟨item, List.mem_cons_self, holdsLong_of_unshownWithin shown⟩
      | some text =>
          have later : shownItems? within rest = none := by
            simpa [shownItems?, shown] using unshown
          rcases holdsLong_of_unshownItems later with ⟨other, inside, long⟩
          exact ⟨other, List.mem_cons_of_mem item inside, long⟩

theorem holdsLong_of_unshownEntries {within : List Nat} :
    ∀ {entries : List (Value × Value)}, shownEntries? within entries = none →
      ∃ entry ∈ entries, HoldsLong entry.1 ∨ HoldsLong entry.2
  | (key, value) :: rest, unshown => by
      cases shownKey : shownWithin? within key with
      | none => exact ⟨_, List.mem_cons_self, .inl (holdsLong_of_unshownWithin shownKey)⟩
      | some keyText =>
          cases shownValue : shownWithin? within value with
          | none => exact ⟨_, List.mem_cons_self, .inr (holdsLong_of_unshownWithin shownValue)⟩
          | some valueText =>
              have later : shownEntries? within rest = none := by
                simpa [shownEntries?, shownKey, shownValue] using unshown
              rcases holdsLong_of_unshownEntries later with ⟨other, inside, long⟩
              exact ⟨other, List.mem_cons_of_mem _ inside, long⟩

end

theorem holdsLong_of_unshown {value : Value} (unshown : value.shown? = none) : HoldsLong value :=
  holdsLong_of_unshownWithin unshown

theorem holdsLong_of_textless {value : Value} (textless : value.text? = none) :
    HoldsLong value := by
  unfold Value.text? at textless
  split at textless
  · contradiction
  · contradiction
  · contradiction
  · exact holdsLong_of_unshown textless

theorem holdsLong_of_textless_list {values : List Value} (textless : texts? values = none) :
    ∃ value ∈ values, HoldsLong value := by
  induction values with
  | nil => simp [texts?] at textless
  | cons value rest ih =>
      cases text : value.text? with
      | none => exact ⟨value, List.mem_cons_self, holdsLong_of_textless text⟩
      | some shown =>
          have later : texts? rest = none := by
            cases texts : texts? rest with
            | none => rfl
            | some others =>
                unfold texts? at texts textless
                simp [text, texts] at textless
          rcases ih later with ⟨other, inside, long⟩
          exact ⟨other, List.mem_cons_of_mem value inside, long⟩

/-! ## Opening knots -/

mutual

/-- What leads back to a knot is replaced by it, and nothing else changes. -/
theorem holdsLong_of_retie {label : Nat} {target : Value} :
    ∀ {value : Value}, HoldsLong (retie label target value) → HoldsLong value ∨ HoldsLong target
  | .null, long => .inl long
  | .bool _, long => .inl long
  | .int _, long => .inl long
  | .float _, long => .inl long
  | .string _, long => .inl long
  | .bytes _, long => .inl long
  | .date _, long => .inl long
  | .moment _, long => .inl long
  | .list items, long => by
      rw [retie] at long
      cases long with
      | item inside long =>
          rcases holdsLong_of_retieItems ⟨_, inside, long⟩ with
            ⟨item, inside, long⟩ | found
          · exact .inl (.item inside long)
          · exact .inr found
  | .pair first second, long => by
      rw [retie] at long
      cases long with
      | first long => exact (holdsLong_of_retie long).imp_left .first
      | second long => exact (holdsLong_of_retie long).imp_left .second
  | .set members, long => by
      rw [retie] at long
      cases long with
      | member inside long =>
          rcases holdsLong_of_retieItems ⟨_, inside, long⟩ with
            ⟨item, inside, long⟩ | found
          · exact .inl (.member inside long)
          · exact .inr found
  | .map entries, long => by
      rw [retie] at long
      have inEntries : ∃ entry ∈ retieEntries label target entries,
          HoldsLong entry.1 ∨ HoldsLong entry.2 := by
        cases long with
        | key inside long => exact ⟨_, inside, .inl long⟩
        | value inside long => exact ⟨_, inside, .inr long⟩
      rcases holdsLong_of_retieEntries inEntries with ⟨entry, inside, long | long⟩ | found
      · exact .inl (.key inside long)
      · exact .inl (.value inside long)
      · exact .inr found
  | .knot other body, long => by
      rw [retie] at long
      cases long with
      | knot long =>
          split at long
          · exact .inl (.knot long)
          · exact (holdsLong_of_retie long).imp_left .knot
  | .again other shape, long => by
      rw [retie] at long
      split at long
      · exact .inr long
      · exact .inl long

theorem holdsLong_of_retieItems {label : Nat} {target : Value} :
    ∀ {items : List Value}, (∃ item ∈ retieItems label target items, HoldsLong item) →
      (∃ item ∈ items, HoldsLong item) ∨ HoldsLong target
  | [], found => by
      rcases found with ⟨_, inside, _⟩
      cases inside
  | item :: rest, found => by
      rcases found with ⟨changed, inside, long⟩
      rw [retieItems] at inside
      cases inside with
      | head =>
          exact (holdsLong_of_retie long).imp_left fun long => ⟨item, List.mem_cons_self, long⟩
      | tail _ inside =>
          rcases holdsLong_of_retieItems ⟨changed, inside, long⟩ with
            ⟨other, inside, long⟩ | found
          · exact .inl ⟨other, List.mem_cons_of_mem item inside, long⟩
          · exact .inr found

theorem holdsLong_of_retieEntries {label : Nat} {target : Value} :
    ∀ {entries : List (Value × Value)},
      (∃ entry ∈ retieEntries label target entries, HoldsLong entry.1 ∨ HoldsLong entry.2) →
        (∃ entry ∈ entries, HoldsLong entry.1 ∨ HoldsLong entry.2) ∨ HoldsLong target
  | [], found => by
      rcases found with ⟨_, inside, _⟩
      cases inside
  | (key, value) :: rest, found => by
      rcases found with ⟨changed, inside, long⟩
      rw [retieEntries] at inside
      cases inside with
      | head =>
          rcases long with long | long
          · exact (holdsLong_of_retie long).imp_left fun long =>
              ⟨_, List.mem_cons_self, .inl long⟩
          · exact (holdsLong_of_retie long).imp_left fun long =>
              ⟨_, List.mem_cons_self, .inr long⟩
      | tail _ inside =>
          rcases holdsLong_of_retieEntries ⟨changed, inside, long⟩ with
            ⟨other, inside, long⟩ | found
          · exact .inl ⟨other, List.mem_cons_of_mem _ inside, long⟩
          · exact .inr found

end

/-- An opened knot holds what the knot holds. -/
theorem holdsLong_of_untie {value : Value} (long : HoldsLong value.untie) : HoldsLong value := by
  cases value with
  | knot label body =>
      rcases holdsLong_of_retie long with long | long
      · exact .knot long
      · exact long
  | _ => exact long

/-! ## Parts of values -/

theorem holdsLong_of_items {value : Value} {items : List Value} {item : Value}
    (listed : value.items? = some items) (inside : item ∈ items) (long : HoldsLong item) :
    HoldsLong value := by
  apply holdsLong_of_untie
  unfold Value.items? at listed
  split at listed
  · rename_i same
    cases listed
    rw [same]
    exact .item inside long
  · contradiction

/-- A long number in the entries of a mapping. -/
def HoldLong (entries : Entries) : Prop :=
  ∃ entry ∈ entries, HoldsLong entry.1 ∨ HoldsLong entry.2

theorem holdsLong_of_entries {value : Value} {entries : Entries}
    (mapped : value.entries? = some entries) (long : HoldLong entries) : HoldsLong value := by
  apply holdsLong_of_untie
  unfold Value.entries? at mapped
  split at mapped
  · rename_i same
    cases mapped
    rw [same]
    rcases long with ⟨entry, inside, long | long⟩
    · exact .key inside long
    · exact .value inside long
  · contradiction

theorem holdLong_of_get? {entries : Entries} {key : String} {value : Value}
    (found : entries.get? key = some value) (long : HoldsLong value) : HoldLong entries := by
  unfold Entries.get? at found
  rw [Option.map_eq_some_iff] at found
  rcases found with ⟨entry, found, rfl⟩
  exact ⟨entry, List.mem_of_find?_eq_some found, .inr long⟩

theorem holdLong_of_get {entries : Entries} {key : String} (long : HoldsLong (entries.get key)) :
    HoldLong entries := by
  unfold Entries.get at long
  cases found : entries.get? key with
  | none =>
      rw [found] at long
      cases long
  | some value =>
      rw [found] at long
      exact holdLong_of_get? found long

end CompilePolicy.Document

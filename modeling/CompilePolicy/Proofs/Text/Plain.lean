import CompilePolicy.Calendar
import CompilePolicy.Decimal.Places
import CompilePolicy.Decimal.Shortest
import CompilePolicy.Text.Encoding
import CompilePolicy.Text.Terminal
import Mathlib.Data.List.TakeWhile

/-!
# Plain texts

A plain text is made of printable ASCII characters and line feeds. None of them
begins a control sequence or holds a half, so a plain text is printed as it is and
has bytes, and what stands behind one has bytes exactly if it has them alone.
Numbers and times are plain.
-/

namespace CompilePolicy.Text

open CompilePolicy.Decimal

/-! ## Plain characters -/

/-- A line feed or a printable character of ASCII. -/
def IsPlainChar (c : Char) : Prop :=
  c = '\n' ∨ 0x20 ≤ c.toNat ∧ c.toNat < 0x7F

instance (c : Char) : Decidable (IsPlainChar c) :=
  inferInstanceAs (Decidable (_ ∨ _ ∧ _))

/-- All characters are plain. -/
def ArePlain (chars : List Char) : Prop :=
  ∀ c ∈ chars, IsPlainChar c

instance (chars : List Char) : Decidable (ArePlain chars) :=
  List.decidableBAll IsPlainChar chars

/-- A text is made of plain characters. -/
def IsPlain (text : String) : Prop :=
  ArePlain text.toList

instance (text : String) : Decidable (IsPlain text) :=
  inferInstanceAs (Decidable (ArePlain _))

@[simp]
theorem arePlain_nil : ArePlain [] :=
  List.forall_mem_nil _

@[simp]
theorem arePlain_cons {c : Char} {rest : List Char} :
    ArePlain (c :: rest) ↔ IsPlainChar c ∧ ArePlain rest :=
  List.forall_mem_cons

@[simp]
theorem arePlain_append {front rest : List Char} :
    ArePlain (front ++ rest) ↔ ArePlain front ∧ ArePlain rest :=
  List.forall_mem_append

theorem arePlain_replicate {c : Char} (plain : IsPlainChar c) (count : Nat) :
    ArePlain (List.replicate count c) := by
  intro asked listed
  rw [List.eq_of_mem_replicate listed]
  exact plain

theorem ArePlain.take {chars : List Char} (plain : ArePlain chars) (count : Nat) :
    ArePlain (chars.take count) :=
  fun c listed => plain c (List.mem_of_mem_take listed)

theorem ArePlain.drop {chars : List Char} (plain : ArePlain chars) (count : Nat) :
    ArePlain (chars.drop count) :=
  fun c listed => plain c (List.mem_of_mem_drop listed)

@[simp]
theorem isPlain_ofList {chars : List Char} : IsPlain (String.ofList chars) ↔ ArePlain chars := by
  rw [IsPlain, String.toList_ofList]

@[simp]
theorem isPlain_append {first second : String} :
    IsPlain (first ++ second) ↔ IsPlain first ∧ IsPlain second := by
  rw [IsPlain, String.toList_append, arePlain_append]
  rfl

/-- What holds of all characters of some texts and of a text between them holds of those of
the whole. -/
theorem forall_mem_intercalate {P : Char → Prop} {between : String} {texts : List String}
    (inside : ∀ c ∈ between.toList, P c) (each : ∀ text ∈ texts, ∀ c ∈ text.toList, P c) :
    ∀ c ∈ (between.intercalate texts).toList, P c := by
  induction texts with
  | nil =>
      rw [String.intercalate_nil]
      exact List.forall_mem_nil _
  | cons text rest ih =>
      rcases List.forall_mem_cons.mp each with ⟨first, others⟩
      cases rest with
      | nil =>
          rw [String.intercalate_singleton]
          exact first
      | cons next more =>
          rw [String.intercalate_cons_cons]
          simp only [String.toList_append, List.forall_mem_append]
          exact ⟨⟨first, inside⟩, ih others⟩

/-- Plain texts with a plain text between them are plain. -/
theorem isPlain_intercalate {between : String} {texts : List String} (plain : IsPlain between)
    (each : ∀ text ∈ texts, IsPlain text) : IsPlain (between.intercalate texts) :=
  forall_mem_intercalate plain each

/-! ## Printing and encoding -/

theorem ne_halfMark_of_isPlainChar {c : Char} (plain : IsPlainChar c) : c ≠ halfMark := by
  rintro rfl
  exact absurd plain (by decide)

theorem ne_escape_of_isPlainChar {c : Char} (plain : IsPlainChar c) : c ≠ '\x1b' := by
  rintro rfl
  exact absurd plain (by decide)

/-- A plain text is printed as it is. -/
theorem plainText_of_isPlain {text : String} (plain : IsPlain text) : plainText text = text := by
  have free : '\x1b' ∉ text.toList := fun listed => ne_escape_of_isPlainChar (plain _ listed) rfl
  rw [plainText, withoutSequences_of_not_mem free, String.ofList_toList]

/-- Plain characters stand for themselves, whatever comes after them. -/
theorem codes_append_of_arePlain {front : List Char} (plain : ArePlain front) (rest : List Char) :
    codes (front ++ rest) = front.map (·.toNat) ++ codes rest := by
  induction front with
  | nil => rfl
  | cons c more ih =>
      rcases arePlain_cons.mp plain with ⟨first, others⟩
      have alone : holdChar c = [c] := if_neg (ne_halfMark_of_isPlainChar first)
      have step := codes_holdChar_append c (more ++ rest)
      rw [alone] at step
      rw [List.cons_append, List.map_cons, List.cons_append, ← ih others]
      exact step

/-- A text has bytes: it holds no half. -/
def Encodes (text : String) : Prop :=
  ∃ bytes, encode text = .ok bytes

theorem encodes_iff {text : String} :
    Encodes text ↔ ∀ code ∈ codes text.toList, isHalf code = false := by
  unfold Encodes encode shown charsOf
  split
  · rename_i some
    obtain ⟨half, listed, isHalf⟩ := List.any_eq_true.mp some
    simpa [Except.map] using ⟨half, listed, isHalf⟩
  · rename_i none
    simpa [Except.map] using none

instance (text : String) : Decidable (Encodes text) :=
  decidable_of_iff _ encodes_iff.symm

/-- A text behind a plain one has bytes exactly if it has them alone. -/
theorem encodes_append_iff {front rest : String} (plain : IsPlain front) :
    Encodes (front ++ rest) ↔ Encodes rest := by
  rw [encodes_iff, encodes_iff, String.toList_append, codes_append_of_arePlain plain]
  constructor
  · intro whole code listed
    exact whole code (List.mem_append_right _ listed)
  · intro later code listed
    rcases List.mem_append.mp listed with own | other
    · rcases List.mem_map.mp own with ⟨c, _, rfl⟩
      exact isHalf_toNat c
    · exact later code other

/-- A plain text has bytes. -/
theorem encodes_of_isPlain {text : String} (plain : IsPlain text) : Encodes text := by
  have empty : Encodes "" := by
    rw [encodes_iff]
    simp [codes]
  rw [← String.append_empty (s := text)]
  exact (encodes_append_iff plain).mpr empty

/-! ## Numbers and times -/

theorem isPlainChar_digitChar {digit : Nat} (small : digit < 16) :
    IsPlainChar (digitChar digit) := by
  have all : ∀ digit < 16, IsPlainChar (digitChar digit) := by
    decide
  exact all digit small

theorem arePlain_digitsOnto {base : Nat} (positive : 0 < base) (small : base ≤ 16)
    (bound value : Nat) {rest : List Char} (plain : ArePlain rest) :
    ArePlain (digitsOnto base bound value rest) := by
  induction bound generalizing value rest with
  | zero => exact plain
  | succ bound ih =>
      unfold digitsOnto
      split
      · rename_i last
        exact arePlain_cons.mpr ⟨isPlainChar_digitChar (by omega), plain⟩
      · have digit : value % base < base := Nat.mod_lt value positive
        exact ih _ (arePlain_cons.mpr ⟨isPlainChar_digitChar (by omega), plain⟩)

theorem arePlain_digits_ten (value : Nat) : ArePlain (digits 10 value) :=
  arePlain_digitsOnto (by omega) (by omega) _ value arePlain_nil

theorem arePlain_digits_sixteen (value : Nat) : ArePlain (digits 16 value) :=
  arePlain_digitsOnto (by omega) (by omega) _ value arePlain_nil

theorem arePlain_padded {chars : List Char} (plain : ArePlain chars) (width : Nat) :
    ArePlain (padded width chars) :=
  arePlain_append.mpr ⟨arePlain_replicate (by decide) _, plain⟩

@[simp]
theorem isPlain_natText (value : Nat) : IsPlain (natText value) :=
  isPlain_ofList.mpr (arePlain_digits_ten value)

@[simp]
theorem isPlain_natTextOfWidth (width value : Nat) : IsPlain (natTextOfWidth width value) :=
  isPlain_ofList.mpr (arePlain_padded (arePlain_digits_ten value) width)

@[simp]
theorem isPlain_intText (value : Int) : IsPlain (intText value) := by
  cases value with
  | ofNat value => exact isPlain_natText value
  | negSucc value =>
      exact isPlain_append.mpr ⟨by decide, isPlain_natText (value + 1)⟩

theorem isPlain_sign (negative : Bool) : IsPlain (if negative then "-" else "") := by
  cases negative <;> decide

/-- A number with a fixed number of places is plain. -/
theorem isPlain_fixedText (places : Nat) (x : Float) : IsPlain (fixedText places x) := by
  unfold fixedText
  split
  · decide
  · have sign := isPlain_sign (isNegative x)
    simp only
    split
    · exact isPlain_append.mpr ⟨sign, by decide⟩
    · have chars := arePlain_padded (arePlain_digits_ten ((Binary.ofFloat x).inPlaces places))
        (places + 1)
      refine isPlain_append.mpr ⟨sign, isPlain_ofList.mpr (arePlain_append.mpr ⟨chars.take _, ?_⟩)⟩
      exact arePlain_cons.mpr ⟨by decide, chars.drop _⟩

theorem arePlain_render (decimal : Numeral) : ArePlain decimal.render := by
  have chars := arePlain_digits_ten decimal.significand
  have zeros : ∀ count, ArePlain (List.replicate count '0') := arePlain_replicate (by decide)
  unfold Numeral.render
  simp only
  split
  · split
    · simp only [arePlain_cons, arePlain_append]
      exact ⟨by decide, by decide, zeros _, chars⟩
    · split
      · simp only [arePlain_cons, arePlain_append]
        exact ⟨chars.take _, by decide, chars.drop _⟩
      · simp only [arePlain_append]
        exact ⟨chars, zeros _, by decide⟩
  · have size := arePlain_padded
      (arePlain_digits_ten (decimal.exponent + (digits 10 decimal.significand).length - 1).natAbs) 2
    have sign : ∀ leading : Int, IsPlainChar (if leading < 0 then '-' else '+') := by
      intro leading
      split <;> decide
    simp only [arePlain_append, arePlain_cons]
    refine ⟨⟨chars.take _, ?_⟩, by decide, sign _, size⟩
    split
    · exact arePlain_nil
    · exact arePlain_cons.mpr ⟨by decide, chars.drop _⟩

/-- A number in its shortest form is plain if the names of the special numbers are. -/
theorem isPlain_floatText {names : SpecialNames} (notANumber : IsPlain names.notANumber)
    (infinity : IsPlain names.infinity) (x : Float) : IsPlain (floatText names x) := by
  unfold floatText
  split
  · exact notANumber
  · have sign := isPlain_sign (isNegative x)
    simp only
    split
    · exact isPlain_append.mpr ⟨sign, infinity⟩
    · split
      · exact isPlain_append.mpr ⟨sign, by decide⟩
      · exact isPlain_append.mpr ⟨sign, isPlain_ofList.mpr (arePlain_render _)⟩

/-- A moment for readers is plain. -/
theorem isPlain_readable (moment : Calendar.Moment) : IsPlain moment.readable := by
  simp only [Calendar.Moment.readable, Calendar.Moment.clockText, isPlain_append, isPlain_natText,
    isPlain_natTextOfWidth, true_and]
  decide

end CompilePolicy.Text

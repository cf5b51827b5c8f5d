import CompilePolicy.Proofs.Decimal.Numeral
import CompilePolicy.Proofs.Text.Plain
import CompilePolicy.Text.Split

/-!
# Lines of an output

A line feed ends a line, and an output is read as the lines that are ended in it. Texts that
are printed one after the other are read as the pieces between their line feeds, so a text is
read as one line if it holds no line feed. It is read as it was if it also holds no control
sequence.
-/

namespace CompilePolicy.Text

open CompilePolicy.Decimal

/-! ## Splitting at line feeds -/

/-- The lines that are ended in an output. -/
def linesOf (output : String) : List String :=
  (splitText '\n' output).dropLast

variable {separator : Char}

theorem splitChars_of_not_mem {chars : List Char} (free : separator ∉ chars) :
    splitChars separator chars = [chars] := by
  induction chars with
  | nil => rfl
  | cons c rest ih =>
      rw [List.mem_cons, not_or] at free
      rw [splitChars, ih free.2]
      exact if_neg (Ne.symm free.1)

theorem not_mem_of_mem_splitChars {chars piece : List Char}
    (listed : piece ∈ splitChars separator chars) : separator ∉ piece := by
  induction chars generalizing piece with
  | nil =>
      rw [splitChars, List.mem_singleton] at listed
      subst listed
      exact List.not_mem_nil
  | cons c rest ih =>
      unfold splitChars at listed
      split at listed
      · rename_i none
        exact absurd none (splitChars_ne_nil separator rest)
      · rename_i first others cut
        rw [cut] at ih
        split at listed
        · rcases List.mem_cons.mp listed with rfl | later
          · exact List.not_mem_nil
          · exact ih later
        · rename_i other
          rcases List.mem_cons.mp listed with rfl | later
          · rw [List.mem_cons, not_or]
            exact ⟨Ne.symm other, ih (.head _)⟩
          · exact ih (.tail _ later)

/-- A separator parts the pieces in front of it and those behind it. -/
theorem splitChars_append_cons (front rest : List Char) :
    splitChars separator (front ++ separator :: rest) =
      splitChars separator front ++ splitChars separator rest := by
  induction front with
  | nil =>
      rw [List.nil_append, splitChars]
      cases cut : splitChars separator rest with
      | nil => exact absurd cut (splitChars_ne_nil separator rest)
      | cons piece pieces => simp [splitChars, cut]
  | cons c front ih =>
      rw [List.cons_append, splitChars, ih, splitChars]
      cases cut : splitChars separator front with
      | nil => exact absurd cut (splitChars_ne_nil separator front)
      | cons piece pieces =>
          simp only [List.cons_append]
          split <;> rfl

/-- A text without line feeds is one piece. -/
theorem splitText_of_not_mem {text : String} (free : separator ∉ text.toList) :
    splitText separator text = [text] := by
  rw [splitText, splitChars_of_not_mem free, List.map_singleton, String.ofList_toList]

theorem linesOf_empty : linesOf "" = [] :=
  rfl

/-- A text that is printed in front of others adds its pieces. -/
theorem linesOf_ended_append (text rest : String) :
    linesOf (text ++ "\n" ++ rest) = splitText '\n' text ++ linesOf rest := by
  have chars : (text ++ "\n" ++ rest).toList = text.toList ++ '\n' :: rest.toList := by
    simp
  have some : splitText '\n' rest ≠ [] := by
    simpa [splitText] using splitChars_ne_nil '\n' rest.toList
  rw [linesOf, splitText, chars, splitChars_append_cons, List.map_append]
  exact List.dropLast_append_of_ne_nil some

example : linesOf "a\n\nb\n" = ["a", "", "b"] := by decide

/-- Lines hold no line feeds. -/
theorem not_mem_of_mem_linesOf {output line : String} (listed : line ∈ linesOf output) :
    '\n' ∉ line.toList := by
  rcases List.mem_map.mp (List.dropLast_subset _ listed) with ⟨piece, isPiece, rfl⟩
  rw [String.toList_ofList]
  exact not_mem_of_mem_splitChars isPiece

/-! ## Control sequences -/

theorem sublist_of_afterSequence? {chars later : List Char}
    (found : afterSequence? chars = some later) : later.Sublist chars := by
  unfold afterSequence? at found
  split at found
  · rename_i rest
    have inside := (List.dropWhile_sublist isIntermediate).trans
      (List.dropWhile_sublist (l := rest) isParameter)
    split at found
    · rename_i c more cut
      rw [cut] at inside
      split at found
      · cases found
        exact ((List.sublist_cons_self c later).trans inside).trans (List.sublist_cons_self _ _)
      · cases found
    · cases found
  · cases found

/-- Taking away control sequences adds nothing. -/
theorem withoutSequences_sublist (chars : List Char) : (withoutSequences chars).Sublist chars := by
  fun_induction withoutSequences chars with
  | case1 => exact .slnil
  | case2 rest later found _ ih => exact (ih.trans (sublist_of_afterSequence? found)).cons _
  | case3 rest none ih => exact ih.cons_cons _
  | case4 c rest other ih => exact ih.cons_cons _

theorem mem_of_mem_plainText {text : String} {c : Char} (listed : c ∈ (plainText text).toList) :
    c ∈ text.toList := by
  rw [plainText, String.toList_ofList] at listed
  exact (withoutSequences_sublist _).subset listed

/-! ## Texts that are kept -/

/-- A character that neither ends a line nor begins a control sequence or a half. -/
def IsKeptChar (c : Char) : Prop :=
  c ≠ '\n' ∧ c ≠ '\x1b' ∧ c ≠ halfMark

instance (c : Char) : Decidable (IsKeptChar c) :=
  inferInstanceAs (Decidable (_ ∧ _ ∧ _))

/-- All characters of a text are kept. -/
def IsKept (text : String) : Prop :=
  ∀ c ∈ text.toList, IsKeptChar c

instance (text : String) : Decidable (IsKept text) :=
  List.decidableBAll IsKeptChar text.toList

@[simp]
theorem isKept_append {first second : String} :
    IsKept (first ++ second) ↔ IsKept first ∧ IsKept second := by
  rw [IsKept, String.toList_append, List.forall_mem_append]
  rfl

theorem isKept_intercalate {between : String} {texts : List String} (kept : IsKept between)
    (each : ∀ text ∈ texts, IsKept text) : IsKept (between.intercalate texts) :=
  forall_mem_intercalate kept each

theorem isKeptChar_of_isDigit {c : Char} (digit : c.isDigit = true) : IsKeptChar c := by
  refine ⟨?_, ?_, ?_⟩ <;>
  · rintro rfl
    exact absurd digit (by decide)

@[simp]
theorem isKept_natText (value : Nat) : IsKept (natText value) := by
  intro c listed
  rw [natText_eq_repr, Nat.repr, String.toList_ofList] at listed
  exact isKeptChar_of_isDigit (Nat.isDigit_of_mem_toDigits (by decide) (by decide) listed)

/-- A text without marks has bytes. -/
theorem encodes_of_not_mem {text : String} (free : halfMark ∉ text.toList) : Encodes text := by
  have alone : ∀ c ∈ text.toList, holdChar c = [c] := by
    intro c listed
    have other : c ≠ halfMark := fun same => free (same ▸ listed)
    exact if_neg other
  have same : held text = text := by
    rw [held, hold, List.flatMap_def, List.map_congr_left alone, ← List.flatMap_def,
      List.flatMap_singleton', String.ofList_toList]
  rw [← same]
  exact ⟨_, encode_held text⟩

theorem IsKept.encodes {text : String} (kept : IsKept text) : Encodes (text ++ "\n") := by
  apply encodes_of_not_mem
  rw [String.toList_append, List.mem_append, not_or]
  exact ⟨fun listed => (kept _ listed).2.2 rfl, by decide⟩

theorem IsKept.plainText_eq {text : String} (kept : IsKept text) : plainText text = text := by
  have free : '\x1b' ∉ text.toList := fun listed => (kept _ listed).2.1 rfl
  rw [plainText, withoutSequences_of_not_mem free, String.ofList_toList]

theorem IsKept.not_mem {text : String} (kept : IsKept text) : '\n' ∉ text.toList :=
  fun listed => (kept _ listed).1 rfl

end CompilePolicy.Text

import CompilePolicy.Proofs.Text.Plain
import CompilePolicy.Yaml.Printer

/-!
# Printed documents are plain

A pen writes plain characters only: marks, indentation and line feeds of its own, the
characters of texts that need no escape, and escapes for all others. So a printed
document is plain, whatever it holds, and it can be printed as it is.
-/

namespace CompilePolicy.Yaml

open CompilePolicy.Decimal CompilePolicy.Document CompilePolicy.Text

/-! ## Pens -/

namespace Pen

/-- What the pen has written is plain. -/
def IsPlain (pen : Pen) : Prop :=
  ArePlain pen.written

namespace IsPlain

variable {pen : Pen} {chars : List Char}

theorem start : IsPlain {} :=
  arePlain_nil

theorem write (plain : pen.IsPlain) (others : ArePlain chars) : (pen.write chars).IsPlain :=
  arePlain_append.mpr ⟨fun c listed => others c (List.mem_reverse.mp listed), plain⟩

theorem touch (plain : pen.IsPlain) : pen.touch.IsPlain :=
  plain

theorem mark (plain : pen.IsPlain) (others : ArePlain chars) : (pen.mark chars).IsPlain :=
  (plain.write others).touch

theorem spacedMark (plain : pen.IsPlain) (others : ArePlain chars) :
    (pen.spacedMark chars).IsPlain := by
  refine plain.mark ?_
  split
  · exact others
  · exact arePlain_cons.mpr ⟨by decide, others⟩

theorem itemMark (plain : pen.IsPlain) {c : Char} (other : IsPlainChar c) :
    (pen.itemMark c).IsPlain :=
  plain.spacedMark (arePlain_cons.mpr ⟨other, arePlain_nil⟩)

theorem breakLine (plain : pen.IsPlain) : pen.breakLine.IsPlain :=
  arePlain_cons.mpr ⟨by decide, plain⟩

theorem fillTo (plain : pen.IsPlain) (column : Nat) : (pen.fillTo column).IsPlain := by
  unfold Pen.fillTo
  split
  · exact plain.write (arePlain_replicate (by decide) _)
  · exact plain

theorem indentTo (plain : pen.IsPlain) (column : Nat) : (pen.indentTo column).IsPlain := by
  unfold Pen.indentTo
  split
  · exact plain.breakLine.fillTo column
  · exact plain.fillTo column

end IsPlain

theorem isPlain_text {pen : Pen} (plain : pen.IsPlain) : Text.IsPlain pen.text :=
  isPlain_ofList.mpr fun c listed => plain c (List.mem_reverse.mp listed)

end Pen

/-! ## Texts without escapes -/

theorem isPlainChar_of_isSimple {c : Char} (simple : isSimple c = true) : IsPlainChar c := by
  simp only [isSimple, Bool.or_eq_true, beq_iff_eq, Bool.and_eq_true, decide_eq_true_eq] at simple
  exact simple.imp_right fun ⟨low, high⟩ => ⟨low, by omega⟩

theorem arePlain_of_isSimple {chars : List Char} (simple : chars.all isSimple = true) :
    ArePlain chars :=
  fun c listed => isPlainChar_of_isSimple (List.all_eq_true.mp simple c listed)

/-- The characters of a run are plain. -/
def Run.IsPlain : Run → Prop
  | .word chars => ArePlain chars
  | _ => True

/-- The runs of a plain text are plain. -/
theorem isPlain_of_mem_runsOf {chars : List Char} (plain : ArePlain chars) :
    ∀ run ∈ runsOf chars, run.IsPlain := by
  induction chars with
  | nil => exact List.forall_mem_nil _
  | cons c rest ih =>
      obtain ⟨first, others⟩ := arePlain_cons.mp plain
      have ih := ih others
      change ∀ run ∈ Run.cons c (runsOf rest), run.IsPlain
      have alone : Run.IsPlain (.word [c]) := arePlain_cons.mpr ⟨first, arePlain_nil⟩
      unfold Run.cons
      split
      · split
        · rename_i same
          rw [same, List.forall_mem_cons] at ih
          exact List.forall_mem_cons.mpr ⟨trivial, ih.2⟩
        · exact List.forall_mem_cons.mpr ⟨trivial, ih⟩
      · split
        · split
          · rename_i same
            rw [same, List.forall_mem_cons] at ih
            exact List.forall_mem_cons.mpr ⟨trivial, ih.2⟩
          · exact List.forall_mem_cons.mpr ⟨trivial, ih⟩
        · split
          · rename_i same
            rw [same, List.forall_mem_cons] at ih
            exact List.forall_mem_cons.mpr ⟨arePlain_cons.mpr ⟨first, ih.1⟩, ih.2⟩
          · exact List.forall_mem_cons.mpr ⟨alone, ih⟩

section

variable {pen : Pen} {runs : List Run} (indent : Nat) (canFold : Bool)

theorem isPlain_writeSpaces (plain : pen.IsPlain) (count : Nat) :
    (writeSpaces indent canFold count pen).IsPlain := by
  unfold writeSpaces
  split
  · exact plain.indentTo indent
  · exact plain.write (arePlain_replicate (by decide) count)

theorem isPlain_breakLines (plain : pen.IsPlain) (count : Nat) :
    (breakLines count pen).IsPlain := by
  induction count generalizing pen with
  | zero => exact plain
  | succ count ih => exact ih plain.breakLine

theorem isPlain_writeRuns (plain : pen.IsPlain) (each : ∀ run ∈ runs, run.IsPlain)
    (isFirst : Bool) : (writeRuns indent canFold isFirst runs pen).IsPlain := by
  induction runs generalizing pen isFirst with
  | nil => exact plain
  | cons run rest ih =>
      obtain ⟨first, others⟩ := List.forall_mem_cons.mp each
      cases run with
      | spaces count => exact ih (isPlain_writeSpaces indent _ plain count) others false
      | breaks count => exact ih ((isPlain_breakLines plain _).indentTo indent) others false
      | word chars =>
          refine ih (plain.write fun c listed => ?_) others false
          obtain ⟨own, member, doubled⟩ := List.mem_flatMap.mp listed
          split at doubled
          · simp only [List.mem_cons, List.not_mem_nil, or_false, or_self] at doubled
            rw [doubled]
            decide
          · rw [List.mem_singleton.mp doubled]
            exact first own member

theorem isPlain_writePlainRuns (plain : pen.IsPlain) (each : ∀ run ∈ runs, run.IsPlain) :
    (writePlainRuns indent canFold runs pen).IsPlain := by
  induction runs generalizing pen with
  | nil => exact plain
  | cons run rest ih =>
      obtain ⟨first, others⟩ := List.forall_mem_cons.mp each
      cases run with
      | spaces count => exact ih (isPlain_writeSpaces indent canFold plain count).touch others
      | breaks count => exact ih (isPlain_breakLines plain count) others
      | word chars => exact ih (plain.write first) others

end

/-! ## Texts with escapes -/

theorem arePlain_toUpper {chars : List Char} (plain : ArePlain chars) :
    ArePlain (chars.map Char.toUpper) := by
  have all : ∀ code < 0x7F, IsPlainChar (Char.ofNat code) →
      IsPlainChar (Char.ofNat code).toUpper := by
    decide
  intro c listed
  obtain ⟨own, member, rfl⟩ := List.mem_map.mp listed
  have ownPlain := plain own member
  have small : own.toNat < 0x7F := by
    rcases ownPlain with rfl | ⟨-, high⟩
    · decide
    · exact high
  have upper := all own.toNat small
  rw [Char.ofNat_toNat] at upper
  exact upper ownPlain

theorem arePlain_escapedCode (code : Nat) : ArePlain (escapedCode code) := by
  have upper : ∀ width, ArePlain ((padded width (digits 16 code)).map Char.toUpper) :=
    fun width => arePlain_toUpper (arePlain_padded (arePlain_digits_sixteen code) width)
  unfold escapedCode
  split
  · exact arePlain_cons.mpr ⟨by decide, upper 2⟩
  · split
    · exact arePlain_cons.mpr ⟨by decide, upper 4⟩
    · exact arePlain_cons.mpr ⟨by decide, upper 8⟩

theorem isPlainChar_of_escapeLetter? {c letter : Char} (found : escapeLetter? c = some letter) :
    IsPlainChar letter := by
  unfold escapeLetter? at found
  split at found <;> cases found <;> decide

theorem arePlain_escape (code : Nat) : ArePlain (escape code) := by
  unfold escape
  refine arePlain_cons.mpr ⟨by decide, ?_⟩
  split
  · exact arePlain_escapedCode code
  · split
    · rename_i letter found
      exact arePlain_cons.mpr ⟨isPlainChar_of_escapeLetter? found, arePlain_nil⟩
    · exact arePlain_escapedCode code

theorem isPlainChar_of_unescaped? {code : Nat} {c : Char} (kept : unescaped? code = some c) :
    IsPlainChar c := by
  unfold unescaped? at kept
  dsimp only at kept
  split at kept
  · cases kept
  · rename_i free
    cases kept
    refine isPlainChar_of_isSimple ?_
    by_contra other
    exact free (by simp [isEscaped, other])

theorem isPlain_foldDouble {pen : Pen} (plain : pen.IsPlain) (indent : Nat)
    (next : Option Char) : (foldDouble indent next pen).IsPlain := by
  have backslash : ArePlain ['\\'] := by decide
  have folded := ((plain.write backslash).indentTo indent).touch
  unfold foldDouble
  dsimp only
  split
  · exact folded.write backslash
  · exact folded

/-- What is pending is plain, and so is what is written of it. -/
theorem isPlain_writeDoubleFrom {pen : Pen} (indent : Nat) (canFold isFirst : Bool)
    {pending : List Char} (codes : List Nat) (plain : pen.IsPlain) (waiting : ArePlain pending) :
    (writeDoubleFrom indent canFold isFirst pending codes pen).IsPlain := by
  induction codes generalizing pen isFirst pending with
  | nil => exact plain.write fun c listed => waiting c (List.mem_reverse.mp listed)
  | cons code rest ih =>
      have forwards : ArePlain pending.reverse :=
        fun c listed => waiting c (List.mem_reverse.mp listed)
      have flushed := plain.write forwards
      unfold writeDoubleFrom
      dsimp only
      split
      · have escaped := flushed.write (arePlain_escape code)
        split
        · exact ih false (isPlain_foldDouble escaped indent _) arePlain_nil
        · exact ih false escaped arePlain_nil
      · rename_i c kept
        have own := isPlainChar_of_unescaped? kept
        split
        · exact ih false (isPlain_foldDouble flushed indent _)
            (arePlain_cons.mpr ⟨own, arePlain_nil⟩)
        · exact ih false plain (arePlain_cons.mpr ⟨own, waiting⟩)

/-! ## Nodes -/

/-- A scalar that is written without escapes is plain. -/
theorem arePlain_of_style {scalar : WrittenScalar} {isKey : Bool}
    (unescaped : scalar.style isKey ≠ .double) : ArePlain scalar.text.toList := by
  unfold WrittenScalar.style at unescaped
  dsimp only at unescaped
  split at unescaped
  · rename_i plainly
    refine arePlain_of_isSimple ?_
    simp only [allowsPlain, Bool.and_eq_true] at plainly
    exact plainly.1.2.1.1.1.1.1
  · split at unescaped
    · rename_i singly
      refine arePlain_of_isSimple ?_
      simp only [allowsSingle, Bool.and_eq_true] at singly
      exact singly.1.1.1
    · exact absurd rfl unescaped

theorem isPlain_writeScalar {pen : Pen} (plain : pen.IsPlain) (indent : Nat) (isKey : Bool)
    (scalar : WrittenScalar) : (writeScalar indent isKey scalar pen).IsPlain := by
  unfold writeScalar
  dsimp only
  split
  · rename_i style
    have runs := isPlain_of_mem_runsOf (arePlain_of_style (by rw [style]; decide))
    unfold writePlain
    split
    · exact plain
    · exact isPlain_writePlainRuns indent _ (plain.spacedMark arePlain_nil) runs
  · rename_i style
    have runs := isPlain_of_mem_runsOf (arePlain_of_style (by rw [style]; decide))
    exact (isPlain_writeRuns indent _ (plain.spacedMark (by decide)) runs true).mark (by decide)
  · exact (isPlain_writeDoubleFrom indent _ true _ (plain.spacedMark (by decide))
      arePlain_nil).mark (by decide)

mutual

/-- A node is written in plain characters. -/
theorem isPlain_writeNode {pen : Pen} (plain : pen.IsPlain) (indent : Option Nat)
    (place : NodePlace) (value : Value) : (writeNode indent place value pen).IsPlain := by
  cases value with
  | list items =>
      unfold writeNode
      split
      · exact plain.spacedMark (by decide)
      · exact isPlain_writeItems plain _ items
  | map entries =>
      unfold writeNode
      split
      · exact plain.spacedMark (by decide)
      · exact isPlain_writeEntries plain _ entries
  | null | bool flag | int number | float number | string text | bytes content | date day
  | moment instant | pair first second | set members | knot label body | again label shape =>
      unfold writeNode
      exact isPlain_writeScalar plain _ _ _

theorem isPlain_writeItems {pen : Pen} (plain : pen.IsPlain) (indent : Nat)
    (items : List Value) : (writeItems indent items pen).IsPlain := by
  cases items with
  | nil =>
      unfold writeItems
      exact plain
  | cons item rest =>
      unfold writeItems
      exact isPlain_writeItems (isPlain_writeNode
        ((plain.indentTo indent).itemMark (by decide)) (some indent) .item item) indent rest

theorem isPlain_writeEntries {pen : Pen} (plain : pen.IsPlain) (indent : Nat)
    (entries : List (Value × Value)) : (writeEntries indent entries pen).IsPlain := by
  cases entries with
  | nil =>
      unfold writeEntries
      exact plain
  | cons entry rest =>
      rcases entry with ⟨key, value⟩
      have begun := plain.indentTo indent
      unfold writeEntries
      dsimp only
      split
      · have colon : ArePlain [':'] := by decide
        have keyed := (isPlain_writeNode begun (some indent) .shortKey key).mark colon
        exact isPlain_writeEntries
          (isPlain_writeNode keyed (some indent) .entry value) indent rest
      · have question : IsPlainChar '?' := by decide
        have keyed := isPlain_writeNode (begun.itemMark question) (some indent) .entry key
        exact isPlain_writeEntries
          (isPlain_writeNode ((keyed.indentTo indent).itemMark (by decide)) (some indent) .entry
            value) indent rest

end

/-- A printed document is plain. -/
theorem isPlain_print (value : Value) : Text.IsPlain (print value) := by
  have body := (isPlain_writeNode .start none .whole value).indentTo 0
  unfold print
  dsimp only
  split
  · exact Pen.isPlain_text ((body.spacedMark (by decide)).indentTo 0)
  · exact Pen.isPlain_text body

theorem isPlain_printTrimmed (value : Value) : Text.IsPlain (printTrimmed value) := by
  refine isPlain_ofList.mpr fun c listed => isPlain_print value c ?_
  exact List.mem_reverse.mp ((List.dropWhile_sublist _).subset (List.mem_reverse.mp listed))

end CompilePolicy.Yaml

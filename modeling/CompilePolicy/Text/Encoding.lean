import CompilePolicy.Text.Half

/-!
# Encoding

A text is written as the bytes of its characters. There are none for a half of a
pair, so a text that holds one is refused. The words of the refusal are those of the
codec, and are left out.

Main statement: `encode_held`, a text from outside has its own bytes.
-/

namespace CompilePolicy.Text

/-- Why a text has no bytes. -/
inductive EncodingFault where
  /-- It holds half of a character. -/
  | half
deriving DecidableEq, Repr

/-- The characters of codes, if no half is among them. -/
def charsOf (codes : List Nat) : Except EncodingFault (List Char) :=
  if codes.any isHalf then .error .half else .ok (codes.map Char.ofNat)

/-- The text that a text stands for outside of texts. -/
def shown (text : String) : Except EncodingFault String :=
  (charsOf (codes text.toList)).map String.ofList

/-- The bytes of a text. -/
def encode (text : String) : Except EncodingFault ByteArray :=
  (shown text).map (·.toUTF8)

theorem isHalf_toNat (c : Char) : isHalf c.toNat = false := by
  have valid := c.valid
  simp only [UInt32.isValidChar, Nat.isValidChar] at valid
  have bounds := isHalf_iff c.toNat
  simp only [Char.toNat] at bounds ⊢
  grind

/-- A text that is held is shown. -/
theorem shown_held (text : String) : shown (held text) = .ok text := by
  simp [shown, held, charsOf, codes_hold, isHalf_toNat, Function.comp_def, Except.map]

/-- A text that is held is encoded. -/
theorem encode_held (text : String) : encode (held text) = .ok text.toUTF8 := by
  simp [encode, shown_held, Except.map]

end CompilePolicy.Text

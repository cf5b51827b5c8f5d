/-!
# Halves of pairs

An escape can ask for one half of a pair of 16-bit units, which is no character. A
text holds such a half as two characters: a mark, which is no character of any
language, and a character at a fixed distance from the half's code. The mark itself
is held twice. Whatever shows, writes or encodes a text goes through `codes`, which
gives back what is held. No encoding has room for a half.

Main statement: `codes_hold`, nothing that is held is mixed up.
-/

namespace CompilePolicy.Text

/-- The code of the character in front of what holds a half. -/
def markCode : Nat := 0x10FFFE

/-- The character in front of what holds a half. -/
def halfMark : Char := Char.ofNat markCode

/-- How far the characters that hold halves are from the halves. -/
def halfShift : Nat := 0x100000

/-- Whether a code is the first half of a pair. -/
def isHighHalf (code : Nat) : Bool :=
  decide (0xD800 ≤ code) && decide (code < 0xDC00)

/-- Whether a code is the second half of a pair. -/
def isLowHalf (code : Nat) : Bool :=
  decide (0xDC00 ≤ code) && decide (code < 0xE000)

/-- Whether a code is one half of a pair. -/
def isHalf (code : Nat) : Bool :=
  isHighHalf code || isLowHalf code

/-- The code point of the character that two halves make. -/
def pairCode (high low : Nat) : Nat :=
  0x10000 + (high - 0xD800) * 0x400 + (low - 0xDC00)

/-- A character as it is held. -/
def holdChar (c : Char) : List Char :=
  if c = halfMark then [halfMark, halfMark] else [c]

/-- A code point or a half as it is held. -/
def holdCode (code : Nat) : List Char :=
  if isHalf code then [halfMark, Char.ofNat (code + halfShift)] else holdChar (Char.ofNat code)

/-- Characters as they are held. -/
def hold (chars : List Char) : List Char :=
  chars.flatMap holdChar

/-- A text as it is held. -/
def held (text : String) : String :=
  String.ofList (hold text.toList)

/-- The code that the character after a mark stands for. -/
def markedCode (c : Char) : Nat :=
  if c = halfMark then markCode else c.toNat - halfShift

/-- The code points and halves that some characters hold. -/
def codes : List Char → List Nat
  | [] => []
  | [c] => [c.toNat]
  | c :: next :: rest =>
    if c = halfMark then markedCode next :: codes rest else c.toNat :: codes (next :: rest)

theorem toNat_halfMark : halfMark.toNat = markCode := by
  decide

theorem codes_holdChar_append (c : Char) (rest : List Char) :
    codes (holdChar c ++ rest) = c.toNat :: codes rest := by
  by_cases isMark : c = halfMark
  · subst isMark
    cases rest <;> simp [holdChar, codes, markedCode, toNat_halfMark]
  · cases rest with
    | nil => simp [holdChar, codes, isMark]
    | cons next more => simp [holdChar, codes, isMark]

/-- What is held is given back. -/
theorem codes_hold (chars : List Char) : codes (hold chars) = chars.map (·.toNat) := by
  induction chars with
  | nil => rfl
  | cons c rest ih =>
    have step : hold (c :: rest) = holdChar c ++ hold rest := by
      simp [hold]
    rw [step, codes_holdChar_append, ih, List.map_cons]

theorem isHalf_iff (code : Nat) : isHalf code = true ↔ 0xD800 ≤ code ∧ code < 0xE000 := by
  simp only [isHalf, isHighHalf, isLowHalf, Bool.or_eq_true, Bool.and_eq_true, decide_eq_true_eq]
  omega

/-- A half that is held is given back. -/
theorem codes_holdCode_append {code : Nat} (half : isHalf code = true) (rest : List Char) :
    codes (holdCode code ++ rest) = code :: codes rest := by
  have bounds := (isHalf_iff code).1 half
  have valid : (code + halfShift).isValidChar := by
    unfold halfShift Nat.isValidChar
    omega
  have value : (Char.ofNat (code + halfShift)).toNat = code + halfShift := by
    rw [Char.ofNat, dif_pos valid]
    rfl
  have other : Char.ofNat (code + halfShift) ≠ halfMark := by
    intro same
    have codes := congrArg Char.toNat same
    rw [value, toNat_halfMark] at codes
    simp only [halfShift, markCode] at codes
    omega
  cases rest <;> simp [holdCode, half, codes, markedCode, other, value]

end CompilePolicy.Text

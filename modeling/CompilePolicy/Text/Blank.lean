import CompilePolicy.Text.CodeRange

/-!
# Blank characters and trimming

Names and values given on the command line are trimmed of blanks. A blank is a
character that separates words in any script: the ASCII controls from tab to
carriage return and from file separator to unit separator, the space, and the
space characters beyond ASCII.
-/

namespace CompilePolicy.Text

/-- The blank characters, in ascending order. -/
def blankRanges : List CodeRange :=
  [⟨0x09, 0x0D⟩, ⟨0x1C, 0x20⟩, ⟨0x85, 0x85⟩, ⟨0xA0, 0xA0⟩, ⟨0x1680, 0x1680⟩,
   ⟨0x2000, 0x200A⟩, ⟨0x2028, 0x2029⟩, ⟨0x202F, 0x202F⟩, ⟨0x205F, 0x205F⟩, ⟨0x3000, 0x3000⟩]

/-- Whether a character is blank. -/
def isBlank (c : Char) : Bool :=
  inRanges blankRanges c.toNat

/-- Whether a character can stand around a written number: a blank, but none of
the four ASCII separators. -/
def isNumberBlank (c : Char) : Bool :=
  isBlank c && !CodeRange.contains ⟨0x1C, 0x1F⟩ c.toNat

/-- The characters without those at either end that have a property. -/
def trimWhere (p : Char → Bool) (chars : List Char) : List Char :=
  ((chars.dropWhile p).reverse.dropWhile p).reverse

/-- The characters without the blanks at either end. -/
def trimChars (chars : List Char) : List Char :=
  trimWhere isBlank chars

/-- The text without the blanks at either end. -/
def trim (text : String) : String :=
  String.ofList (trimChars text.toList)

@[simp]
theorem trimChars_nil : trimChars [] = [] :=
  rfl

@[simp]
theorem toList_trim (text : String) : (trim text).toList = trimChars text.toList := by
  simp [trim]

end CompilePolicy.Text

import CompilePolicy.Text.CodeRange

/-!
# Characters of YAML

The classes of characters that the grammar tells apart. The end of the text
ends everything that a line break ends, so the classes are also given for the
next character, which may be missing.
-/

namespace CompilePolicy.Yaml

open CompilePolicy.Text

/-- The characters that a document can hold. -/
def contentRanges : List CodeRange :=
  [⟨0x09, 0x0A⟩, ⟨0x0D, 0x0D⟩, ⟨0x20, 0x7E⟩, ⟨0x85, 0x85⟩, ⟨0xA0, 0xD7FF⟩, ⟨0xE000, 0xFFFD⟩,
   ⟨0x10000, 0x10FFFF⟩]

/-- Whether a document can hold a character. -/
def isContent (c : Char) : Bool :=
  inRanges contentRanges c.toNat

/-- The byte order mark. -/
def byteOrderMark : Char := '\uFEFF'

/-- Whether a character breaks a line. -/
def isBreak (c : Char) : Bool :=
  c == '\n' || c == '\r' || c == '\x85' || c == '\u2028' || c == '\u2029'

/-- Whether a character is a space or a tab. -/
def isSpaceOrTab (c : Char) : Bool :=
  c == ' ' || c == '\t'

/-- Whether a character separates words. -/
def isSeparator (c : Char) : Bool :=
  isSpaceOrTab c || isBreak c

/-- Whether the line ends here. -/
def endsLine (next : Option Char) : Bool :=
  next.all isBreak

/-- Whether a word ends here, where tabs belong to the word. -/
def endsAtSpace (next : Option Char) : Bool :=
  next.all fun c => c == ' ' || isBreak c

/-- Whether a word ends here. -/
def endsWord (next : Option Char) : Bool :=
  next.all isSeparator

/-- Whether a character stands between the items of flow collections or around
them. -/
def isFlowIndicator (c : Char) : Bool :=
  c == ',' || c == '[' || c == ']' || c == '\x7b' || c == '\x7d'

/-- Whether a character can be part of the name of an anchor, a directive or a
tag handle. -/
def isNameChar (c : Char) : Bool :=
  c.isAlphanum || c == '-' || c == '_'

/-- The characters besides letters and digits that tags are written with. -/
def tagPunctuation : List Char :=
  ['-', ';', '/', '?', ':', '@', '&', '=', '+', '$', ',', '_', '.', '!', '~', '*', '\x27', '(',
   ')', '[', ']', '%']

/-- Whether a character can be part of a tag. -/
def isTagChar (c : Char) : Bool :=
  c.isAlphanum || tagPunctuation.contains c

/-- The value of a hexadecimal digit. -/
def hexValue? (c : Char) : Option Nat :=
  if '0' ≤ c ∧ c ≤ '9' then some (c.toNat - '0'.toNat)
  else if 'a' ≤ c ∧ c ≤ 'f' then some (c.toNat - 'a'.toNat + 10)
  else if 'A' ≤ c ∧ c ≤ 'F' then some (c.toNat - 'A'.toNat + 10)
  else none

end CompilePolicy.Yaml

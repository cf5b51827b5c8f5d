import CompilePolicy.Yaml.Character

/-!
# The cursor

A place in a text with what is left of it. Lines and columns count from zero;
indentation is told by columns, and a key has to be closed on its own line. A
cursor knows the length of the whole text, which bounds what is left.
-/

namespace CompilePolicy.Yaml

/-- A place in a text. -/
structure Cursor where
  rest : List Char
  index : Nat
  line : Nat
  column : Nat
  /-- The length of the whole text. -/
  bound : Nat
deriving DecidableEq, Repr

namespace Cursor

/-- The start of a text. -/
def start (chars : List Char) : Cursor :=
  ⟨chars, 0, 0, 0, chars.length⟩

/-- The next character. -/
def next? (cursor : Cursor) : Option Char :=
  cursor.rest.head?

/-- The character after the next one. -/
def second? (cursor : Cursor) : Option Char :=
  (cursor.rest.drop 1).head?

/-- One character further. A carriage return and the line feed after it break
one line, and a byte order mark takes no column. -/
def advance (cursor : Cursor) : Cursor :=
  match cursor.rest with
  | [] => cursor
  | c :: rest =>
    if isBreak c && !(c == '\r' && rest.head? == some '\n') then
      { cursor with rest, index := cursor.index + 1, line := cursor.line + 1, column := 0 }
    else if c == byteOrderMark then { cursor with rest, index := cursor.index + 1 }
    else { cursor with rest, index := cursor.index + 1, column := cursor.column + 1 }

/-- Several characters further. -/
def advanceBy : Nat → Cursor → Cursor
  | 0, cursor => cursor
  | count + 1, cursor => advanceBy count cursor.advance

/-- The characters in front that satisfy a test, and the place after them. -/
def takeWhile (cursor : Cursor) (test : Char → Bool) : List Char × Cursor :=
  let taken := cursor.rest.takeWhile test
  (taken, cursor.advanceBy taken.length)

/-- The place after the characters that satisfy a test. -/
def skipWhile (cursor : Cursor) (test : Char → Bool) : Cursor :=
  (cursor.takeWhile test).2

/-- The place after the spaces in front. -/
def skipSpaces (cursor : Cursor) : Cursor :=
  cursor.skipWhile (· == ' ')

/-- The place after the spaces in front, as far as a column. -/
def skipSpacesTo (cursor : Cursor) (column : Nat) : Cursor :=
  let spaces := (cursor.rest.takeWhile (· == ' ')).length
  cursor.advanceBy (min spaces (column - cursor.column))

/-- The end of the line. -/
def skipLine (cursor : Cursor) : Cursor :=
  cursor.skipWhile (!isBreak ·)

/-- The place after a comment, if one begins here. -/
def skipComment (cursor : Cursor) : Cursor :=
  if cursor.next? == some '#' then cursor.skipLine else cursor

/-- The line break in front and the place after it. All breaks but the line and
paragraph separators read as line feeds. -/
def lineBreak? (cursor : Cursor) : Option (Char × Cursor) :=
  match cursor.rest with
  | [] => none
  | '\r' :: '\n' :: _ => some ('\n', cursor.advanceBy 2)
  | c :: _ =>
    if c == '\u2028' || c == '\u2029' then some (c, cursor.advance)
    else if isBreak c then some ('\n', cursor.advance)
    else none

/-- The place after the line break in front, if there is one. -/
def skipBreak (cursor : Cursor) : Cursor :=
  match cursor.lineBreak? with
  | some (_, after) => after
  | none => cursor

/-- Whether three hyphens or three dots stand here as a word. -/
def atMarker (cursor : Cursor) (mark : Char) : Bool :=
  cursor.rest.take 3 == [mark, mark, mark] && endsWord (cursor.rest.drop 3).head?

/-- Whether a document begins or ends here. -/
def atDocumentMarker (cursor : Cursor) : Bool :=
  cursor.atMarker '-' || cursor.atMarker '.'

end Cursor

/-- The text that a line break and the further breaks after it stand for: a
single line feed is a space, and otherwise the first line feed is dropped. -/
def foldBreaks (first : Char) (further : List Char) : List Char :=
  if first != '\n' then first :: further
  else if further.isEmpty then [' '] else further

end CompilePolicy.Yaml

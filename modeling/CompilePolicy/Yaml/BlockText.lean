import CompilePolicy.Yaml.Cursor
import CompilePolicy.Yaml.Fault

/-!
# Block texts

Texts whose lines are marked by their indentation. After a bar the lines are
kept, and after a greater-than sign they are folded unless they begin with a
blank. The indicators say how far the text is indented and what becomes of the
line breaks at its end.
-/

namespace CompilePolicy.Yaml

/-- What becomes of the line breaks at the end. -/
inductive Chomping where
  | strip
  | clip
  | keep
deriving DecidableEq, Repr

/-- What stands after the mark of a block text. -/
structure BlockHeader where
  chomping : Chomping := .clip
  indentation : Option Nat := none

/-- The chomping of an indicator. -/
def chomping? (c : Char) : Option Chomping :=
  if c == '+' then some .keep else if c == '-' then some .strip else none

/-- The chomping at the cursor, if it is indicated. -/
def readChomping (cursor : Cursor) : Chomping × Cursor :=
  match cursor.next?.bind chomping? with
  | some chomping => (chomping, cursor.advance)
  | none => (.clip, cursor)

/-- The indentation at the cursor, if it is indicated. It cannot be zero. -/
def readIndentation (cursor : Cursor) : Except Fault (Option Nat × Cursor) :=
  match cursor.next? with
  | some c =>
    if c == '0' then .error .malformed
    else if c.isDigit then .ok (some (c.toNat - '0'.toNat), cursor.advance)
    else .ok (none, cursor)
  | none => .ok (none, cursor)

/-- The indicators at the cursor, in either order. -/
def readHeader (cursor : Cursor) : Except Fault (BlockHeader × Cursor) :=
  match cursor.next?.bind chomping? with
  | some chomping =>
    (readIndentation cursor.advance).map fun (indentation, after) =>
      (⟨chomping, indentation⟩, after)
  | none =>
    match readIndentation cursor with
    | .error fault => .error fault
    | .ok (none, after) => .ok (⟨.clip, none⟩, after)
    | .ok (some indentation, afterDigit) =>
      let (chomping, after) := readChomping afterDigit
      .ok (⟨chomping, some indentation⟩, after)

/-- The place after the rest of a line that may hold a comment only. -/
def skipIgnoredLine (cursor : Cursor) : Except Fault Cursor :=
  let ending := cursor.skipSpaces.skipComment
  if endsLine ending.next? then .ok ending.skipBreak else .error .malformed

/-- The line breaks in front of the first line with text, and the column of the
most indented one among the lines before it and it. -/
def leadingBreaks : Nat → List Char → Nat → Cursor → List Char × Nat × Cursor
  | 0, breaks, column, cursor => (breaks, column, cursor)
  | bound + 1, breaks, column, cursor =>
    if cursor.next? == some ' ' then
      leadingBreaks bound breaks (max column cursor.advance.column) cursor.advance
    else
      match cursor.lineBreak? with
      | some (lineBreak, after) => leadingBreaks bound (breaks ++ [lineBreak]) column after
      | none => (breaks, column, cursor)

/-- The line breaks in front of the next line with text, where lines are
indented as far as a column. -/
def breaksTo (column : Nat) : Nat → List Char → Cursor → List Char × Cursor
  | 0, breaks, cursor => (breaks, cursor)
  | bound + 1, breaks, cursor =>
    let indented := cursor.skipSpacesTo column
    match indented.lineBreak? with
    | some (lineBreak, after) => breaksTo column bound (breaks ++ [lineBreak]) after
    | none => (breaks, indented)

/-- Whether a line of the text begins at the cursor. -/
def isAtLine (column : Nat) (cursor : Cursor) : Bool :=
  cursor.column == column && cursor.next?.isSome

/-- Whether the next character is a blank. -/
def isAtBlank (cursor : Cursor) : Bool :=
  cursor.next?.any isSpaceOrTab

/-- The end of a block text: what is left of its last line breaks. -/
def chomped (chomping : Chomping) (lineBreak : Option Char) (breaks : List Char) : List Char :=
  match chomping with
  | .strip => []
  | .clip => lineBreak.toList
  | .keep => lineBreak.toList ++ breaks

/-- The lines of a block text after `taken`, the line break before them and the
further breaks after that. -/
def blockLines (isFolded : Bool) (column : Nat) (chomping : Chomping) :
    Nat → List Char → Option Char → List Char → Cursor → String × Cursor
  | 0, taken, lineBreak, breaks, cursor =>
    (String.ofList (taken ++ chomped chomping lineBreak breaks), cursor)
  | bound + 1, taken, lineBreak, breaks, cursor =>
    if isAtLine column cursor then
      let (line, ending) := cursor.takeWhile (!isBreak ·)
      let withLine := taken ++ breaks ++ line
      let nextBreak := ending.lineBreak?.map (·.1)
      let (nextBreaks, following) :=
        breaksTo column (ending.bound + 1) [] ending.skipBreak
      let joint :=
        if isAtLine column following then
          if isFolded && nextBreak == some '\n' && !isAtBlank cursor && !isAtBlank following then
            if nextBreaks.isEmpty then [' '] else []
          else nextBreak.toList
        else []
      if isAtLine column following then
        blockLines isFolded column chomping bound (withLine ++ joint) nextBreak nextBreaks following
      else
        (String.ofList (withLine ++ chomped chomping nextBreak nextBreaks), following)
    else (String.ofList (taken ++ chomped chomping lineBreak breaks), cursor)

/-- The block text at the cursor, from its mark on, in a collection indented to
`indent`. -/
def readBlock (isFolded : Bool) (indent : Int) (cursor : Cursor) :
    Except Fault (String × Cursor) :=
  match readHeader cursor.advance with
  | .error fault => .error fault
  | .ok (header, afterHeader) =>
    if endsAtSpace afterHeader.next? then
      match skipIgnoredLine afterHeader with
      | .error fault => .error fault
      | .ok lines =>
        let least := max 1 (indent + 1).toNat
        let bound := lines.bound + 1
        match header.indentation with
        | some width =>
          let column := least + width - 1
          let (breaks, first) := breaksTo column bound [] lines
          .ok (blockLines isFolded column header.chomping bound [] none breaks first)
        | none =>
          let (breaks, deepest, first) := leadingBreaks bound [] 0 lines
          .ok (blockLines isFolded (max least deepest) header.chomping bound [] none breaks first)
    else .error .malformed

end CompilePolicy.Yaml

import CompilePolicy.Yaml.Cursor

/-!
# Plain texts

A text without quotes. It ends at a comment, at a colon that ends a word, at
the indicators of flow collections inside one, and before a line that is
indented too little. Lines are folded.
-/

namespace CompilePolicy.Yaml

/-- Whether a plain text ends before `c`, which `next` follows. -/
def plainEnds (inFlow : Bool) (c : Char) (next : Option Char) : Bool :=
  isSeparator c ||
    (c == ':' && (endsWord next || (inFlow && next.any isFlowIndicator))) ||
    (inFlow && (isFlowIndicator c || c == '?'))

/-- The characters up to the end of a word. -/
def plainWord (inFlow : Bool) : List Char → List Char
  | [] => []
  | c :: rest => if plainEnds inFlow c rest.head? then [] else c :: plainWord inFlow rest

/-- What stands between two words: the text that it is folded to, which is empty
if no further word can follow, and whether it crosses a line. -/
structure Gap where
  text : List Char
  crossesLine : Bool
  after : Cursor

/-- The further breaks after a first one, with the spaces among them. There is
no text if a document begins or ends on the way. The first argument bounds the
number of characters. -/
def gapBreaks : Nat → List Char → Cursor → Option (List Char) × Cursor
  | 0, breaks, cursor => (some breaks, cursor)
  | bound + 1, breaks, cursor =>
    if cursor.next? == some ' ' then gapBreaks bound breaks cursor.advance
    else
      match cursor.lineBreak? with
      | none => (some breaks, cursor)
      | some (lineBreak, after) =>
        if after.atDocumentMarker then (none, after)
        else gapBreaks bound (breaks ++ [lineBreak]) after

/-- What stands after a word. -/
def plainGap (cursor : Cursor) : Gap :=
  let (spaces, afterSpaces) := cursor.takeWhile (· == ' ')
  match afterSpaces.lineBreak? with
  | none => ⟨spaces, false, afterSpaces⟩
  | some (lineBreak, after) =>
    if after.atDocumentMarker then ⟨[], true, after⟩
    else
      match gapBreaks after.bound [] after with
      | (none, last) => ⟨[], true, last⟩
      | (some breaks, last) => ⟨foldBreaks lineBreak breaks, true, last⟩

/-- A plain text with the place after it. If it ends on a later line than its
last word, a key can begin there. -/
structure PlainText where
  text : String
  crossesLine : Bool
  after : Cursor

/-- The words of a plain text from the cursor on, after `taken` and a gap. -/
def plainFrom (inFlow : Bool) (leastColumn : Int) : Nat → List Char → Gap → PlainText
  | 0, taken, gap => ⟨String.ofList taken, gap.crossesLine, gap.after⟩
  | bound + 1, taken, gap =>
    let word := plainWord inFlow gap.after.rest
    if gap.after.next? == some '#' || word.isEmpty then
      ⟨String.ofList taken, gap.crossesLine, gap.after⟩
    else
      let longer := taken ++ gap.text ++ word
      let nextGap := plainGap (gap.after.advanceBy word.length)
      if nextGap.text.isEmpty || (!inFlow && decide ((nextGap.after.column : Int) < leastColumn))
      then ⟨String.ofList longer, nextGap.crossesLine, nextGap.after⟩
      else plainFrom inFlow leastColumn bound longer nextGap

/-- The plain text at the cursor. Outside flow collections its lines begin at
`leastColumn` or further right. -/
def readPlain (inFlow : Bool) (leastColumn : Int) (cursor : Cursor) : PlainText :=
  plainFrom inFlow leastColumn cursor.bound [] ⟨[], false, cursor⟩

end CompilePolicy.Yaml

import CompilePolicy.Yaml.PlainText
import CompilePolicy.Yaml.QuotedText
import CompilePolicy.Yaml.Token

/-!
# The tokens of a text

Tokens are found one after another from the start of the text. That a token is
the beginning of a key shows only at the colon behind it, so the lexer remembers
which of the tokens it found may begin keys, one for each level of flow
collections, and puts the key's own token in front when the colon comes. A key
that is written without a mark ends on the line on which it begins and is not
longer than 1024 characters.
-/

namespace CompilePolicy.Yaml

/-- A token that may begin a key: the number of tokens before it, where it
stands, and whether it has to be a key because nothing else can stand there. -/
structure KeyCandidate where
  position : Nat
  isRequired : Bool
  index : Nat
  line : Nat
  column : Nat

/-- What the lexer knows between two tokens. -/
structure Lexer where
  cursor : Cursor
  /-- The tokens found, the last one first. -/
  taken : List Token := []
  /-- The number of tokens found. -/
  count : Nat := 0
  /-- The number of flow collections that are open. -/
  flowLevel : Nat := 0
  /-- The column of the innermost block collection, and minus one outside. -/
  indent : Int := -1
  /-- The columns of the block collections around it, the innermost first. -/
  outerIndents : List Int := []
  /-- Whether a key without a mark can begin at the next token. -/
  allowsKey : Bool := true
  /-- The tokens that may begin keys, by flow level. -/
  candidates : List (Nat × KeyCandidate) := []

/-- The greatest length of a key without a mark. -/
def keyLengthLimit : Nat := 1024

namespace Lexer

/-- Whether some flow collection is open. -/
def inFlow (lexer : Lexer) : Bool :=
  lexer.flowLevel != 0

/-- Adds a token at the end. -/
def push (token : Token) (lexer : Lexer) : Lexer :=
  { lexer with taken := token :: lexer.taken, count := lexer.count + 1 }

/-- Puts a token at a position. -/
def insert (position : Nat) (token : Token) (lexer : Lexer) : Lexer :=
  let after := lexer.count - position
  { lexer with
    taken := lexer.taken.take after ++ token :: lexer.taken.drop after
    count := lexer.count + 1 }

/-- Moves to a place in the text. -/
def moveTo (cursor : Cursor) (lexer : Lexer) : Lexer :=
  { lexer with cursor }

/-- Says whether a key can begin at the next token. -/
def allow (allowsKey : Bool) (lexer : Lexer) : Lexer :=
  { lexer with allowsKey }

/-- Whether a candidate can still be a key when its colon comes here. -/
def isFresh (lexer : Lexer) (candidate : KeyCandidate) : Bool :=
  candidate.line == lexer.cursor.line &&
    decide (lexer.cursor.index - candidate.index ≤ keyLengthLimit)

/-- Drops the candidates that can no longer be keys. -/
def dropStale (lexer : Lexer) : Except Fault Lexer :=
  if lexer.candidates.any fun entry => !lexer.isFresh entry.2 && entry.2.isRequired then
    .error .malformed
  else
    .ok { lexer with candidates := lexer.candidates.filter fun entry => lexer.isFresh entry.2 }

/-- The candidate of the current flow level. -/
def candidate? (lexer : Lexer) : Option KeyCandidate :=
  lexer.candidates.lookup lexer.flowLevel

/-- Forgets the candidate of the current flow level. -/
def forget (lexer : Lexer) : Lexer :=
  { lexer with candidates := lexer.candidates.filter (·.1 != lexer.flowLevel) }

/-- Drops the candidate of the current flow level, which turns out to be none. -/
def dropCandidate (lexer : Lexer) : Except Fault Lexer :=
  if lexer.candidate?.any (·.isRequired) then .error .malformed else .ok lexer.forget

/-- Makes the next token a candidate, if a key can begin there. -/
def addCandidate (lexer : Lexer) : Except Fault Lexer :=
  if lexer.allowsKey then
    lexer.dropCandidate.map fun cleared =>
      let cursor := lexer.cursor
      let candidate : KeyCandidate := {
        position := lexer.count
        isRequired := !lexer.inFlow && lexer.indent == cursor.column
        index := cursor.index
        line := cursor.line
        column := cursor.column }
      { cleared with candidates := (lexer.flowLevel, candidate) :: cleared.candidates }
  else .ok lexer

/-- Ends the block collections that are indented further than a column. -/
def unwindFrom (column : Int) : List Int → Lexer → Lexer
  | [], lexer => lexer
  | outer :: rest, lexer =>
    if column < lexer.indent then
      unwindFrom column rest
        (push .blockEnd { lexer with indent := outer, outerIndents := rest })
    else lexer

/-- Ends the block collections that are indented further than a column. Inside
a flow collection indentation means nothing. -/
def unwind (column : Int) (lexer : Lexer) : Lexer :=
  if lexer.inFlow then lexer else unwindFrom column lexer.outerIndents lexer

/-- Begins a block collection at a column, with `start` in front of the token
at a position, unless the innermost one is already indented as far. -/
def beginBlock (column : Nat) (position : Nat) (start : Token) (lexer : Lexer) : Lexer :=
  if lexer.indent < column then
    insert position start
      { lexer with indent := column, outerIndents := lexer.indent :: lexer.outerIndents }
  else lexer

/-- The place of the next token: comments and spaces are skipped, and outside
flow collections a key can begin on each new line. The first argument bounds the
number of lines. -/
def skipToToken : Nat → Lexer → Lexer
  | 0, lexer => lexer
  | bound + 1, lexer =>
    let ending := lexer.cursor.skipSpaces.skipComment
    match ending.lineBreak? with
    | some (_, after) =>
      skipToToken bound (lexer.moveTo after |>.allow (lexer.allowsKey || !lexer.inFlow))
    | none => lexer.moveTo ending

/-- Skips the byte order mark at the start of a text. -/
def skipMark (lexer : Lexer) : Lexer :=
  if lexer.cursor.index == 0 && lexer.cursor.next? == some byteOrderMark then
    lexer.moveTo lexer.cursor.advance
  else lexer

/-- A token outside all collections: the end of the text or the mark of a
document. -/
def takeTopLevel (token : Token) (after : Cursor) (lexer : Lexer) : Except Fault Lexer :=
  (lexer.unwind (-1)).dropCandidate.map fun cleared =>
    cleared.allow false |>.moveTo after |>.push token

/-- A directive. -/
def takeDirective (lexer : Lexer) : Except Fault Lexer :=
  match (lexer.unwind (-1)).dropCandidate with
  | .error fault => .error fault
  | .ok cleared =>
    (readDirective lexer.cursor).map fun (directive, after) =>
      cleared.allow false |>.moveTo after |>.push (.directive directive)

/-- The beginning of a flow collection. -/
def takeFlowStart (token : Token) (lexer : Lexer) : Except Fault Lexer :=
  lexer.addCandidate.map fun marked =>
    { marked with flowLevel := marked.flowLevel + 1 }.allow true
      |>.moveTo lexer.cursor.advance |>.push token

/-- The end of a flow collection. -/
def takeFlowEnd (token : Token) (lexer : Lexer) : Except Fault Lexer :=
  lexer.dropCandidate.map fun cleared =>
    { cleared with flowLevel := cleared.flowLevel - 1 }.allow false
      |>.moveTo lexer.cursor.advance |>.push token

/-- The comma between two items of a flow collection. -/
def takeFlowEntry (lexer : Lexer) : Except Fault Lexer :=
  lexer.dropCandidate.map fun cleared =>
    cleared.allow true |>.moveTo lexer.cursor.advance |>.push .flowEntry

/-- Begins a block collection at the cursor, unless it is inside a flow
collection. It can begin only where a key can. -/
def openBlock (start : Token) (lexer : Lexer) : Except Fault Lexer :=
  if lexer.inFlow then .ok lexer
  else if lexer.allowsKey then
    .ok (lexer.beginBlock lexer.cursor.column lexer.count start)
  else .error .malformed

/-- The hyphen in front of an item of a block sequence. -/
def takeBlockEntry (lexer : Lexer) : Except Fault Lexer :=
  match lexer.openBlock .blockSequenceStart with
  | .error fault => .error fault
  | .ok opened =>
    opened.dropCandidate.map fun cleared =>
      cleared.allow true |>.moveTo lexer.cursor.advance |>.push .blockEntry

/-- The mark of a key or of a value whose key is no candidate. -/
def takeMark (token : Token) (lexer : Lexer) : Except Fault Lexer :=
  match lexer.openBlock .blockMappingStart with
  | .error fault => .error fault
  | .ok opened =>
    opened.dropCandidate.map fun cleared =>
      cleared.allow (!lexer.inFlow) |>.moveTo lexer.cursor.advance |>.push token

/-- The colon in front of a value. -/
def takeValue (lexer : Lexer) : Except Fault Lexer :=
  match lexer.candidate? with
  | none => lexer.takeMark .value
  | some candidate =>
    let keyed := lexer.forget.insert candidate.position .key
    let opened :=
      if lexer.inFlow then keyed
      else keyed.beginBlock candidate.column candidate.position .blockMappingStart
    .ok (opened.allow false |>.moveTo lexer.cursor.advance |>.push .value)

/-- A token that stands for a node or in front of one. -/
def takeNode {α : Type} (result : Except Fault (α × Cursor)) (token : α → Token)
    (lexer : Lexer) : Except Fault Lexer :=
  match lexer.addCandidate with
  | .error fault => .error fault
  | .ok marked =>
    result.map fun (found, after) => marked.allow false |>.moveTo after |>.push (token found)

/-- A block text. -/
def takeBlockText (isFolded : Bool) (lexer : Lexer) : Except Fault Lexer :=
  match lexer.dropCandidate with
  | .error fault => .error fault
  | .ok cleared =>
    (readBlock isFolded lexer.indent lexer.cursor).map fun (text, after) =>
      cleared.allow true |>.moveTo after |>.push (.scalar text false)

/-- A plain text. -/
def takePlain (lexer : Lexer) : Except Fault Lexer :=
  lexer.addCandidate.map fun marked =>
    let plain := readPlain lexer.inFlow (lexer.indent + 1) lexer.cursor
    marked.allow plain.crossesLine |>.moveTo plain.after |>.push (.scalar plain.text true)

/-- The characters that a plain text does not begin with, unless a hyphen, a
question mark or a colon begins its first word. -/
def indicators : List Char :=
  ['-', '?', ':', ',', '[', ']', '\x7b', '\x7d', '#', '&', '*', '!', '|', '>', '\x27', '\x22', '%',
   '@', '\x60']

/-- Whether a plain text begins with `c`, which `next` follows. -/
def beginsPlain (inFlow : Bool) (c : Char) (next : Option Char) : Bool :=
  !(isSeparator c || indicators.contains c) ||
    (!endsWord next && (c == '-' || (!inFlow && (c == '?' || c == ':'))))

/-- The token at the cursor, which is at `c`. -/
def takeAt (c : Char) (lexer : Lexer) : Except Fault Lexer :=
  let cursor := lexer.cursor
  let next := cursor.second?
  if cursor.column == 0 && c == '%' then lexer.takeDirective
  else if cursor.column == 0 && cursor.atMarker '-' then
    lexer.takeTopLevel .documentStart (cursor.advanceBy 3)
  else if cursor.column == 0 && cursor.atMarker '.' then
    lexer.takeTopLevel .documentEnd (cursor.advanceBy 3)
  else if c == '[' then lexer.takeFlowStart .flowSequenceStart
  else if c == '\x7b' then lexer.takeFlowStart .flowMappingStart
  else if c == ']' then lexer.takeFlowEnd .flowSequenceEnd
  else if c == '\x7d' then lexer.takeFlowEnd .flowMappingEnd
  else if c == ',' then lexer.takeFlowEntry
  else if c == '-' && endsWord next then lexer.takeBlockEntry
  else if c == '?' && (lexer.inFlow || endsWord next) then lexer.takeMark .key
  else if c == ':' && (lexer.inFlow || endsWord next) then lexer.takeValue
  else if c == '*' then lexer.takeNode (readAnchorName cursor.advance) .alias
  else if c == '&' then lexer.takeNode (readAnchorName cursor.advance) .anchor
  else if c == '!' then lexer.takeNode (readTag cursor) .tag
  else if c == '|' && !lexer.inFlow then lexer.takeBlockText false
  else if c == '>' && !lexer.inFlow then lexer.takeBlockText true
  else if c == '\x27' || c == '\x22' then
    lexer.takeNode (readQuoted c cursor) fun text => .scalar text false
  else if beginsPlain lexer.inFlow c next then lexer.takePlain
  else .error .malformed

/-- Finds the next token, or nothing more once the text has ended. -/
def step (lexer : Lexer) : Except Fault Lexer :=
  match (lexer.skipMark.skipToToken (lexer.cursor.bound + 1)).dropStale with
  | .error fault => .error fault
  | .ok fresh =>
    let unwound := fresh.unwind fresh.cursor.column
    match unwound.cursor.next? with
    | none => unwound.takeTopLevel .streamEnd unwound.cursor
    | some c => takeAt c unwound

/-- The tokens that are settled: no key can any longer begin in front of
them. -/
def settled (lexer : Lexer) : List Token :=
  let undecided := (lexer.candidates.map (·.2)).filter lexer.isFresh
  lexer.taken.reverse.take ((undecided.map (·.position)).foldl min lexer.count)

/-- All tokens from here on. -/
def run : Nat → Lexer → List Token
  | 0, lexer => lexer.taken.reverse
  | bound + 1, lexer =>
    match lexer.step with
    | .error fault => lexer.settled ++ [.broken fault]
    | .ok next => if next.taken.head? == some .streamEnd then next.taken.reverse else run bound next

end Lexer

/-- The tokens of a text. -/
def tokens (text : String) : List Token :=
  let chars := text.toList
  if chars.all isContent then
    Lexer.run (chars.length + 1) { cursor := .start chars }
  else [.broken .malformed]

end CompilePolicy.Yaml

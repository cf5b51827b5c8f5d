import CompilePolicy.Decimal.Shortest
import CompilePolicy.Document.Render
import CompilePolicy.Text.Half
import CompilePolicy.Yaml.Character
import CompilePolicy.Yaml.Printer.Pen
import CompilePolicy.Yaml.Scalar.Resolution

/-!
# Written scalars

A scalar is written plain if it reads back as what it is, between single quotes
if all its characters can stand there, and between double quotes with escapes
otherwise. Long lines are folded at blanks.
-/

namespace CompilePolicy.Yaml

open CompilePolicy.Decimal CompilePolicy.Document

/-- A scalar to be written. -/
structure WrittenScalar where
  text : String
  /-- Written plain, the text has the tag that it should have. -/
  isSelfTagged : Bool
  /-- The length of the tag in its short form. -/
  tagLength : Nat

/-- How a scalar is written. -/
inductive Style where
  | plain
  | single
  | double
deriving DecidableEq, Repr

/-- Floating-point numbers in YAML. -/
def yamlSpecials : SpecialNames where
  notANumber := ".nan"
  infinity := ".inf"

/-- A floating-point number: an exponent comes after a point. -/
def floatScalar (number : Float) : String :=
  let chars := (floatText yamlSpecials number).toList
  if chars.contains '.' then String.ofList chars
  else String.ofList (chars.flatMap fun c => if c = 'e' then ['.', '0', 'e'] else [c])

/-- A text. -/
def stringScalar (text : String) : WrittenScalar :=
  ⟨text, plainTag text == .string, 5⟩

/-- The scalar of a value that is no collection. -/
def scalarOf : Value → WrittenScalar
  | .null => ⟨"null", true, 6⟩
  | .bool flag => ⟨if flag then "true" else "false", true, 6⟩
  | .int number => ⟨intText number, true, 5⟩
  | .float number => ⟨floatScalar number, true, 7⟩
  | .date day => ⟨day.text, true, 11⟩
  | .moment instant => ⟨instant.text " ", true, 11⟩
  | other => stringScalar (other.text?.getD "")

/-- Whether a character can stand in a scalar without escapes. -/
def isSimple (c : Char) : Bool :=
  c == '\n' || (decide (0x20 ≤ c.toNat) && decide (c.toNat ≤ 0x7E))

/-- Whether a character breaks a line of a written text. A carriage return does not:
it is always escaped. -/
def isWrittenBreak (c : Char) : Bool :=
  isBreak c && c != '\r'

/-- Whether `second` follows `first` somewhere. -/
def hasPair (first second : Char) : List Char → Bool
  | [] => false
  | c :: rest => (c == first && rest.head? == some second) || hasPair first second rest

/-- Whether a character after the first would end a plain text or begin a
comment. -/
def hasInnerIndicator : List Char → Bool
  | [] => false
  | c :: rest =>
    (isSeparator c && rest.head? == some '#') ||
      (rest.head? == some ':' && endsWord (rest.drop 1).head?) || hasInnerIndicator rest

/-- The characters that a plain text cannot begin with. -/
def leadingIndicators : List Char :=
  ['#', ',', '[', ']', '\x7b', '\x7d', '&', '*', '!', '|', '>', '\x27', '\x22', '%', '@', '\x60']

/-- The characters that a plain text cannot begin with as words of their own. -/
def leadingMarks : List Char :=
  ['?', ':', '-']

/-- Whether the first character would make a plain text something else. -/
def hasLeadingIndicator (chars : List Char) : Bool :=
  match chars with
  | [] => false
  | c :: rest => leadingIndicators.contains c || (leadingMarks.contains c && endsWord rest.head?)

/-- Whether a text begins like the mark of a document. -/
def beginsLikeMarker (chars : List Char) : Bool :=
  chars.take 3 == ['-', '-', '-'] || chars.take 3 == ['.', '.', '.']

/-- Whether a text begins or ends with a space or a line feed. -/
def hasOuterSpace (chars : List Char) : Bool :=
  let isSpace (c : Option Char) : Bool := c == some ' ' || c == some '\n'
  isSpace chars.head? || isSpace chars.getLast?

/-- Whether a text can be written plain in a block collection. -/
def allowsPlain (chars : List Char) : Bool :=
  chars.all isSimple && !chars.contains '\n' && !hasOuterSpace chars && !beginsLikeMarker chars &&
    !hasLeadingIndicator chars && !hasInnerIndicator chars

/-- Whether a text can be written between single quotes: no space stands next to
a line feed. -/
def allowsSingle (chars : List Char) : Bool :=
  chars.all isSimple && !hasPair ' ' '\n' chars && !hasPair '\n' ' ' chars

/-- The style of a scalar, which is a key on the line of its value or not. A key
is written on one line. -/
def WrittenScalar.style (scalar : WrittenScalar) (isKey : Bool) : Style :=
  let chars := scalar.text.toList
  let hasBreak := chars.contains '\n'
  if scalar.isSelfTagged && allowsPlain chars && !(isKey && chars.isEmpty) then .plain
  else if allowsSingle chars && !(isKey && hasBreak) then .single
  else .double

/-- A run of spaces, of line feeds, or of other characters. -/
inductive Run where
  | spaces (count : Nat)
  | breaks (count : Nat)
  | word (chars : List Char)
deriving DecidableEq, Repr

/-- Puts a character in front of runs. -/
def Run.cons (c : Char) (runs : List Run) : List Run :=
  if c = ' ' then
    match runs with
    | .spaces count :: rest => .spaces (count + 1) :: rest
    | _ => .spaces 1 :: runs
  else if c = '\n' then
    match runs with
    | .breaks count :: rest => .breaks (count + 1) :: rest
    | _ => .breaks 1 :: runs
  else
    match runs with
    | .word chars :: rest => .word (c :: chars) :: rest
    | _ => .word [c] :: runs

/-- The runs of a text. -/
def runsOf (chars : List Char) : List Run :=
  chars.foldr Run.cons []

/-- Writes spaces. A single one between words becomes a line break where the line
is full. -/
def writeSpaces (indent : Nat) (canFold : Bool) (count : Nat) (pen : Pen) : Pen :=
  if count = 1 ∧ canFold ∧ lineWidth < pen.column then pen.indentTo indent
  else pen.write (List.replicate count ' ')

/-- Ends several lines. -/
def breakLines : Nat → Pen → Pen
  | 0, pen => pen
  | count + 1, pen => breakLines count pen.breakLine

/-- Writes the runs of a quoted text. A line feed takes one line break more than
it is, because a single one would be folded. -/
def writeRuns (indent : Nat) (canFold : Bool) : Bool → List Run → Pen → Pen
  | _, [], pen => pen
  | isFirst, .spaces count :: rest, pen =>
    let foldable := canFold && !isFirst && !rest.isEmpty
    writeRuns indent canFold false rest (writeSpaces indent foldable count pen)
  | _, .breaks count :: rest, pen =>
    writeRuns indent canFold false rest ((breakLines (count + 1) pen).indentTo indent)
  | _, .word chars :: rest, pen =>
    let doubled := chars.flatMap fun c => if c = '\x27' then ['\x27', '\x27'] else [c]
    writeRuns indent canFold false rest (pen.write doubled)

/-- Writes a text between single quotes. -/
def writeSingle (indent : Nat) (canFold : Bool) (chars : List Char) (pen : Pen) : Pen :=
  (writeRuns indent canFold true (runsOf chars) (pen.spacedMark ['\x27'])).mark ['\x27']

/-- Writes the runs of a plain text. -/
def writePlainRuns (indent : Nat) (canFold : Bool) : List Run → Pen → Pen
  | [], pen => pen
  | .spaces count :: rest, pen =>
    writePlainRuns indent canFold rest (writeSpaces indent canFold count pen).touch
  | .breaks count :: rest, pen => writePlainRuns indent canFold rest (breakLines count pen)
  | .word chars :: rest, pen => writePlainRuns indent canFold rest (pen.write chars)

/-- Writes a plain text. -/
def writePlain (indent : Nat) (canFold : Bool) (chars : List Char) (pen : Pen) : Pen :=
  if chars.isEmpty then pen
  else writePlainRuns indent canFold (runsOf chars) (pen.spacedMark [])

/-- The letter of an escape, if the character has one. -/
def escapeLetter? (c : Char) : Option Char :=
  match c with
  | '\x00' => some '0'
  | '\x07' => some 'a'
  | '\x08' => some 'b'
  | '\t' => some 't'
  | '\n' => some 'n'
  | '\x0B' => some 'v'
  | '\x0C' => some 'f'
  | '\r' => some 'r'
  | '\x1B' => some 'e'
  | '\x22' => some '\x22'
  | '\\' => some '\\'
  | '\x85' => some 'N'
  | '\xA0' => some '_'
  | '\u2028' => some 'L'
  | '\u2029' => some 'P'
  | _ => none

/-- The code point of a character after the letter for its width. -/
def escapedCode (code : Nat) : List Char :=
  let upper (width : Nat) : List Char := (padded width (digits 16 code)).map Char.toUpper
  if code ≤ 0xFF then 'x' :: upper 2
  else if code ≤ 0xFFFF then 'u' :: upper 4
  else 'U' :: upper 8

/-- An escape. -/
def escape (code : Nat) : List Char :=
  '\\' ::
    if Text.isHalf code then escapedCode code
    else
      match escapeLetter? (Char.ofNat code) with
      | some letter => [letter]
      | none => escapedCode code

/-- Whether a character is escaped between double quotes. -/
def isEscaped (c : Char) : Bool :=
  c == '\x22' || c == '\\' || c == '\n' || !isSimple c

/-- The character of a code that is written without an escape. -/
def unescaped? (code : Nat) : Option Char :=
  let c := Char.ofNat code
  if Text.isHalf code || isEscaped c then none else some c

/-- Folds a text between double quotes before `next`: the line ends in a
backslash, and so does the blank that would begin the next one. -/
def foldDouble (indent : Nat) (next : Option Char) (pen : Pen) : Pen :=
  let folded := ((pen.write ['\\']).indentTo indent).touch
  if next == some ' ' then folded.write ['\\'] else folded

/-- Writes the codes of a text between double quotes. `pending` are characters that
are not yet written, the last one first. A line is folded before a blank, around
an escape, or where nothing is pending. -/
def writeDoubleFrom (indent : Nat) (canFold : Bool) :
    Bool → List Char → List Nat → Pen → Pen
  | _, pending, [], pen => pen.write pending.reverse
  | isFirst, pending, code :: rest, pen =>
    let canFoldHere := canFold && !isFirst && !rest.isEmpty
    match unescaped? code with
    | none =>
      let escaped := (pen.write pending.reverse).write (escape code)
      if canFoldHere && decide (lineWidth < escaped.column - 1) then
        writeDoubleFrom indent canFold false [] rest
          (foldDouble indent (rest.head?.bind unescaped?) escaped)
      else writeDoubleFrom indent canFold false [] rest escaped
    | some c =>
      if canFoldHere && (c == ' ' || pending.isEmpty) &&
          decide (lineWidth < pen.column + pending.length) then
        writeDoubleFrom indent canFold false [c] rest
          (foldDouble indent (some c) (pen.write pending.reverse))
      else writeDoubleFrom indent canFold false (c :: pending) rest pen

/-- Writes a text between double quotes. -/
def writeDouble (indent : Nat) (canFold : Bool) (chars : List Char) (pen : Pen) : Pen :=
  (writeDoubleFrom indent canFold true [] (Text.codes chars) (pen.spacedMark ['\x22'])).mark
    ['\x22']

/-- Writes a scalar. Keys on the line of their value are not folded. -/
def writeScalar (indent : Nat) (isKey : Bool) (scalar : WrittenScalar) (pen : Pen) : Pen :=
  let chars := scalar.text.toList
  match scalar.style isKey with
  | .plain => writePlain indent (!isKey) chars pen
  | .single => writeSingle indent (!isKey) chars pen
  | .double => writeDouble indent (!isKey) chars pen

end CompilePolicy.Yaml

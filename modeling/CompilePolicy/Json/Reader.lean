import CompilePolicy.Decimal.Reading
import CompilePolicy.Document.Ordered
import CompilePolicy.Document.Render
import CompilePolicy.Text.Half

/-!
# Reading JSON

Reads one JSON value from a text. The grammar is the standard one with the
literals `NaN`, `Infinity` and `-Infinity` besides. A number with a fraction or
an exponent is a floating-point number and any other is a whole number. When a
key occurs again, its last value stands in its first place.

Each reader takes the characters that are left and returns what it read with
the characters after it. Values nest, so the readers carry a bound on the steps
that are left, which is computed from the length of the text.
Values may be nested to any depth: the limit at which an interpreter that reads them
by recursion gives up is left out.
-/

namespace CompilePolicy.Json

open CompilePolicy.Decimal CompilePolicy.Document

/-- Why a text is not read. -/
inductive Fault where
  | malformed
  | tooManyDigits (count : Nat)
deriving DecidableEq, Repr

/-- A reader's result: what was read and the characters after it. -/
abbrev Reading (α : Type) := Except Fault (α × List Char)

/-- Whether a character can stand between tokens. -/
def isSpace (c : Char) : Bool :=
  c == ' ' || c == '\t' || c == '\n' || c == '\r'

/-- The characters after the space in front. -/
def skipSpace (chars : List Char) : List Char :=
  chars.dropWhile isSpace

/-- The characters after `word`, if they start with it. -/
def after? (word : String) (chars : List Char) : Option (List Char) :=
  if word.toList.isPrefixOf chars then some (chars.drop word.length) else none

/-- The value of a hexadecimal digit. -/
def hexDigit? (c : Char) : Option Nat :=
  if '0' ≤ c ∧ c ≤ '9' then some (c.toNat - '0'.toNat)
  else if 'a' ≤ c ∧ c ≤ 'f' then some (c.toNat - 'a'.toNat + 10)
  else if 'A' ≤ c ∧ c ≤ 'F' then some (c.toNat - 'A'.toNat + 10)
  else none

/-- The unit that four hexadecimal digits give. -/
def readUnit (chars : List Char) : Reading Nat :=
  match (chars.take 4).mapM hexDigit? with
  | some [a, b, c, d] => .ok (digitsValue 16 [a, b, c, d], chars.drop 4)
  | _ => .error .malformed

/-- The code after `\u`. Two halves in a row make one character, and a half without its
partner stays one. -/
def readCode (chars : List Char) : Reading Nat :=
  match readUnit chars with
  | .error fault => .error fault
  | .ok (unit, rest) =>
    match Text.isHighHalf unit, rest with
    | true, '\\' :: 'u' :: more =>
      if more.length < 4 then .ok (unit, rest)
      else
        match readUnit more with
        | .error fault => .error fault
        | .ok (second, after) =>
          if Text.isLowHalf second then .ok (Text.pairCode unit second, after)
          else .ok (unit, rest)
    | _, _ => .ok (unit, rest)

/-- The character that a letter after a backslash stands for. -/
def escape? (c : Char) : Option Char :=
  match c with
  | '\x22' => some '\x22'
  | '\\' => some '\\'
  | '/' => some '/'
  | 'b' => some '\x08'
  | 'f' => some '\x0C'
  | 'n' => some '\n'
  | 'r' => some '\r'
  | 't' => some '\t'
  | _ => none

/-- The characters of a string up to its closing quote, in reverse onto
`taken`. -/
def readStringOnto : Nat → List Char → List Char → Reading String
  | 0, _, _ => .error .malformed
  | _ + 1, _, [] => .error .malformed
  | bound + 1, taken, c :: rest =>
    if c = '\x22' then .ok (String.ofList taken.reverse, rest)
    else if c = '\\' then
      match rest with
      | 'u' :: more =>
        match readCode more with
        | .error fault => .error fault
        | .ok (code, after) => readStringOnto bound ((Text.holdCode code).reverse ++ taken) after
      | letter :: more =>
        match escape? letter with
        | some meant => readStringOnto bound (meant :: taken) more
        | none => .error .malformed
      | [] => .error .malformed
    else if c.toNat < 0x20 then .error .malformed
    else readStringOnto bound (c :: taken) rest

/-- A string after its opening quote. -/
def readString (bound : Nat) (chars : List Char) : Reading String :=
  readStringOnto bound [] chars

/-- The digits in front, with their values. -/
def takeDigits (chars : List Char) : List Nat × List Char :=
  ((chars.takeWhile (·.isDigit)).map fun c => c.toNat - '0'.toNat, chars.dropWhile (·.isDigit))

/-- The whole part of a number: a zero alone, or digits that start with another
digit. -/
def readWhole (chars : List Char) : Reading (List Nat) :=
  match chars with
  | '0' :: rest => .ok ([0], rest)
  | _ =>
    match takeDigits chars with
    | ([], _) => .error .malformed
    | (digits, rest) => .ok (digits, rest)

/-- The digits after a decimal point, if there is one with digits after it. -/
def readFraction (chars : List Char) : Option (List Nat) × List Char :=
  match chars with
  | '.' :: rest =>
    match takeDigits rest with
    | ([], _) => (none, chars)
    | (digits, after) => (some digits, after)
  | _ => (none, chars)

/-- The exponent, if there is one with digits. -/
def readExponent (chars : List Char) : Option Int × List Char :=
  match chars with
  | mark :: rest =>
    if mark = 'e' ∨ mark = 'E' then
      let (isNegative, digitsFrom) := match rest with
        | '-' :: more => (true, more)
        | '+' :: more => (false, more)
        | _ => (false, rest)
      match takeDigits digitsFrom with
      | ([], _) => (none, chars)
      | (digits, after) =>
        let size : Int := digitsValue 10 digits
        (some (if isNegative then -size else size), after)
    else (none, chars)
  | [] => (none, chars)

/-- A number after its sign. -/
def readNumber (isNegative : Bool) (chars : List Char) : Reading Value :=
  match readWhole chars with
  | .error fault => .error fault
  | .ok (whole, afterWhole) =>
    let (fraction, afterFraction) := readFraction afterWhole
    let (exponent, rest) := readExponent afterFraction
    match fraction, exponent with
    | none, none =>
      if whole.length ≤ maxDigits then
        let size : Int := digitsValue 10 whole
        .ok (.int (if isNegative then -size else size), rest)
      else .error (.tooManyDigits whole.length)
    | _, _ =>
      let places := fraction.getD []
      let size :=
        nearestFloat (digitsValue 10 (whole ++ places)) (exponent.getD 0 - places.length)
      .ok (.float (signedFloat isNegative size), rest)

/-- The literals that start with a letter, with their values. -/
def literals : List (String × Value) :=
  [("null", .null), ("true", .bool true), ("false", .bool false), ("NaN", .float (0 / 0)),
   ("Infinity", .float (1 / 0))]

/-- A value that is not a string, an array or an object. -/
def readScalar (chars : List Char) : Reading Value :=
  match literals.findSome? fun literal => (after? literal.1 chars).map fun rest => (literal.2, rest)
  with
  | some result => .ok result
  | none =>
    match chars with
    | '-' :: rest =>
      match after? "Infinity" rest with
      | some after => .ok (.float (-(1 / 0)), after)
      | none => readNumber true rest
    | _ => readNumber false chars

mutual

/-- A value, after the space in front of it. -/
def readValue : Nat → List Char → Reading Value
  | 0, _ => .error .malformed
  | bound + 1, chars =>
    match chars with
    | '\x22' :: rest =>
      match readString bound rest with
      | .error fault => .error fault
      | .ok (text, after) => .ok (.string text, after)
    | '[' :: rest =>
      match skipSpace rest with
      | ']' :: after => .ok (.list [], after)
      | items => readItems bound [] items
    | '\x7b' :: rest =>
      match skipSpace rest with
      | '\x7d' :: after => .ok (.record [], after)
      | fields => readFields bound [] fields
    | _ => readScalar chars

/-- The items of an array from the next one on, in reverse onto `taken`. -/
def readItems : Nat → List Value → List Char → Reading Value
  | 0, _, _ => .error .malformed
  | bound + 1, taken, chars =>
    match readValue bound chars with
    | .error fault => .error fault
    | .ok (item, after) =>
      match skipSpace after with
      | ',' :: more => readItems bound (item :: taken) (skipSpace more)
      | ']' :: rest => .ok (.list (item :: taken).reverse, rest)
      | _ => .error .malformed

/-- The fields of an object from the next one on. -/
def readFields : Nat → List (String × Value) → List Char → Reading Value
  | 0, _, _ => .error .malformed
  | bound + 1, taken, chars =>
    match chars with
    | '\x22' :: fromKey =>
      match readString bound fromKey with
      | .error fault => .error fault
      | .ok (key, afterKey) =>
        match skipSpace afterKey with
        | ':' :: fromValue =>
          match readValue bound (skipSpace fromValue) with
          | .error fault => .error fault
          | .ok (value, after) =>
            match skipSpace after with
            | ',' :: more => readFields bound (setField taken key value) (skipSpace more)
            | '\x7d' :: rest => .ok (.record (setField taken key value), rest)
            | _ => .error .malformed
        | _ => .error .malformed
    | _ => .error .malformed

end

/-- The value of a text that holds one JSON value and nothing else. -/
def read (text : String) : Except Fault Value :=
  let chars := text.toList
  match readValue (2 * chars.length + 2) (skipSpace chars) with
  | .error fault => .error fault
  | .ok (value, rest) => if (skipSpace rest).isEmpty then .ok value else .error .malformed

end CompilePolicy.Json

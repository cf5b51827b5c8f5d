import CompilePolicy.Text.Blank
import CompilePolicy.Text.Digit
import CompilePolicy.Text.LowerCase
import CompilePolicy.Text.Split
import CompilePolicy.Yaml.Fault
import CompilePolicy.Yaml.Scalar.Binary
import CompilePolicy.Yaml.Scalar.Resolution

/-!
# The value of a scalar

What the text of a scalar stands for under its tag. A tag that is written out
can ask for more than a plain scalar can have, so that numbers are read with
blanks around them and with the digits of any script.
-/

namespace CompilePolicy.Yaml

open CompilePolicy.Decimal CompilePolicy.Document CompilePolicy.Text

/-- The words for truth values in lower case, with what they mean. -/
def truthMeanings : List (String × Bool) :=
  [("yes", true), ("no", false), ("true", true), ("false", false), ("on", true), ("off", false)]

/-- A truth value. -/
def boolOf (text : String) : Except Fault Value :=
  let word := lower text
  match truthMeanings.lookup word with
  | some flag => .ok (.bool flag)
  | none => .error (.notTruth word)

/-- The letter after a zero that names a base. -/
def baseLetter? (base : Nat) : Option Char :=
  if base = 2 then some 'b' else if base = 8 then some 'o' else if base = 16 then some 'x' else none

/-- The characters after a zero and the letter of the base, if they stand in
front. -/
def withoutBase (base : Nat) (chars : List Char) : List Char :=
  match chars with
  | '0' :: letter :: rest =>
    if (baseLetter? base).any (· == letter.toLower) then rest else chars
  | _ => chars

/-- The value of a digit below a base. -/
def digitBelow? (base : Nat) (c : Char) : Option Nat :=
  (digit? c).filter (· < base)

/-- Whether the digits of a whole number in a base are limited in number. -/
def isLimited (base : Nat) : Bool :=
  base == 10

/-- The sign of a number and what follows it. -/
def splitSign : List Char → Bool × List Char
  | '-' :: rest => (true, rest)
  | '+' :: rest => (false, rest)
  | chars => (false, chars)

/-- The whole number that a text is in a base. -/
def integerOf (base : Nat) (text : List Char) : Except Fault Int :=
  let (isNegative, unsigned) := splitSign (trimWhere isNumberBlank text)
  let chars := withoutBase base unsigned
  let digits := (chars.takeWhile fun c => (digitBelow? base c).isSome).filterMap (digitBelow? base)
  if isLimited base && decide (maxDigits < digits.length) then .error (.tooManyDigits digits.length)
  else if digits.isEmpty || digits.length != chars.length then
    .error (.notInteger base (String.ofList text))
  else
    let size : Int := digitsValue base digits
    .ok (if isNegative then -size else size)

/-- The whole number whose sexagesimal places are given, the first the most
significant. -/
def sexagesimal (places : List Int) : Int :=
  places.foldl (fun value place => value * 60 + place) 0

/-- A text without its underscores. -/
def withoutUnderscores (text : String) : String :=
  String.ofList (text.toList.filter (· != '_'))

/-- Whether a minus sign stands before a number, and what follows the sign. -/
def unsigned (text : String) : Except Fault (Bool × List Char) :=
  match text.toList with
  | [] => .error .emptyNumber
  | chars => .ok (splitSign chars)

/-- The size of a whole number after its sign. -/
def intSize (chars : List Char) : Except Fault Int :=
  match chars with
  | ['0'] => .ok 0
  | '0' :: 'b' :: digits => integerOf 2 digits
  | '0' :: 'x' :: digits => integerOf 16 digits
  | '0' :: _ => integerOf 8 chars
  | [] => .error .emptyNumber
  | _ =>
    if chars.contains ':' then ((splitChars ':' chars).mapM (integerOf 10)).map sexagesimal
    else integerOf 10 chars

/-- A whole number. -/
def intOf (text : String) : Except Fault Value :=
  match unsigned (withoutUnderscores text) with
  | .error fault => .error fault
  | .ok (isNegative, chars) =>
    (intSize chars).map fun size => .int (if isNegative then -size else size)

/-- The digits in front, in any script, and what follows them. -/
def takeDecimalDigits (chars : List Char) : List Nat × List Char :=
  ((chars.takeWhile fun c => (decimalDigit? c).isSome).filterMap decimalDigit?,
    chars.dropWhile fun c => (decimalDigit? c).isSome)

/-- An exponent that fills the rest of the text, or no exponent at its end. -/
def exponentOf? (chars : List Char) : Option Int :=
  match chars with
  | [] => some 0
  | mark :: rest =>
    if mark = 'e' ∨ mark = 'E' then
      let (isNegative, digitsFrom) := splitSign rest
      match takeDecimalDigits digitsFrom with
      | (digit :: digits, []) =>
        let size : Int := digitsValue 10 (digit :: digits)
        some (if isNegative then -size else size)
      | _ => none
    else none

/-- The number that a decimal without a sign is. -/
def decimalSize? (chars : List Char) : Option Float :=
  let (whole, afterWhole) := takeDecimalDigits chars
  let (places, afterPlaces) := match afterWhole with
    | '.' :: rest => takeDecimalDigits rest
    | _ => ([], afterWhole)
  if whole.isEmpty && places.isEmpty then none
  else
    (exponentOf? afterPlaces).map fun exponent =>
      nearestFloat (digitsValue 10 (whole ++ places)) (exponent - places.length)

/-- The words for numbers without digits, in lower case. -/
def specialNumbers : List (String × Float) :=
  [("inf", 1 / 0), ("infinity", 1 / 0), ("nan", 0 / 0)]

/-- The floating-point number that a text in lower case is. -/
def decimalOf (text : List Char) : Except Fault Float :=
  let (isNegative, chars) := splitSign (trimWhere isNumberBlank text)
  let size :=
    match specialNumbers.lookup (String.ofList chars) with
    | some special => some special
    | none => decimalSize? chars
  match size with
  | some number => .ok (signedFloat isNegative number)
  | none => .error (.notDecimal (String.ofList text))

/-- Adds up sexagesimal places, the first the least significant, from a unit
on. -/
def addPlaces (sum : Float) (unit : Nat) : List Float → Except Fault Float
  | [] => .ok sum
  | place :: rest =>
    let factor := nearestFloat unit 0
    if factor.isInf then .error .unitTooLarge
    else addPlaces (sum + place * factor) (unit * 60) rest

/-- A floating-point number after its sign, in lower case. -/
def floatSize (chars : List Char) : Except Fault Float :=
  if String.ofList chars = ".inf" then .ok (1 / 0)
  else if String.ofList chars = ".nan" then .ok (0 / 0)
  else if chars.contains ':' then
    match (splitChars ':' chars).mapM decimalOf with
    | .error fault => .error fault
    | .ok places => addPlaces 0 1 places.reverse
  else decimalOf chars

/-- Whether a text is the usual one for what is no number. -/
def isUsualNotNumber (text : String) : Bool :=
  match unsigned (lower (withoutUnderscores text)) with
  | .ok (_, chars) => String.ofList chars == ".nan"
  | .error _ => false

/-- A floating-point number. -/
def floatOf (text : String) : Except Fault Value :=
  match unsigned (lower (withoutUnderscores text)) with
  | .error fault => .error fault
  | .ok (isNegative, chars) =>
    (floatSize chars).map fun size => .float (signedFloat isNegative size)

/-- Whether scalars are read under a tag: collections are no scalars, and the special
keys have no value of their own. -/
def isReadable (tag : Tag) : Bool :=
  [Tag.null, .bool, .int, .float, .binary, .timestamp, .string].contains tag

/-- The value of a scalar under its tag. -/
def scalarValue (tag : Tag) (text : String) : Except Fault Value :=
  match tag with
  | .null => .ok .null
  | .bool => boolOf text
  | .int => intOf text
  | .float => floatOf text
  | .binary =>
    match bytesOfBase64? text.toList with
    | some bytes => .ok (.bytes bytes)
    | none => .error .malformed
  | .timestamp =>
    match WrittenTime.ofChars? (lineOf text.toList) with
    | some time => time.value.mapError .calendar
    | none => .error .notTime
  | .string => .ok (.string text)
  | _ => .error .malformed

end CompilePolicy.Yaml

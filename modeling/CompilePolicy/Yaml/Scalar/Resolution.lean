import CompilePolicy.Text.Split
import CompilePolicy.Yaml.Scalar.Time
import CompilePolicy.Yaml.Tag

/-!
# The tag of a plain scalar

A plain scalar without a tag is a truth value, a number, a time, null or one of
the special keys if it is written like one, and a string otherwise. Numbers can
have underscores between their digits and can be written in sexagesimal places.
A line feed at the end does not count.
-/

namespace CompilePolicy.Yaml

open CompilePolicy.Text

/-- The words for truth values. -/
def truthWords : List String :=
  ["yes", "Yes", "YES", "no", "No", "NO", "true", "True", "TRUE", "false", "False", "FALSE", "on",
   "On", "ON", "off", "Off", "OFF"]

/-- The words for null. -/
def nullWords : List String :=
  ["~", "null", "Null", "NULL"]

/-- The words for infinity, and the words for what is no number. -/
def infinityWords : List String :=
  [".inf", ".Inf", ".INF"]

@[inherit_doc infinityWords]
def notNumberWords : List String :=
  [".nan", ".NaN", ".NAN"]

/-- The characters after a sign, if there is one. -/
def withoutSign : List Char → List Char
  | '-' :: rest => rest
  | '+' :: rest => rest
  | chars => chars

/-- Whether a character is a digit below `base` or an underscore. -/
def isDigitOf (base : Nat) (c : Char) : Bool :=
  c == '_' ||
    (if base ≤ 10 then c.isDigit && decide (c.toNat < '0'.toNat + base)
     else c.isDigit || ('a' ≤ c && c ≤ 'f') || ('A' ≤ c && c ≤ 'F'))

/-- Digits and underscores that start with a digit from `least` on. -/
def isNumeral (least : Char) (chars : List Char) : Bool :=
  match chars with
  | first :: rest => first.isDigit && decide (least ≤ first) && rest.all (isDigitOf 10)
  | [] => false

/-- A sexagesimal place after the first: one digit, or two that start below
six. -/
def isPlace (chars : List Char) : Bool :=
  match chars with
  | [digit] => digit.isDigit
  | [tens, digit] => tens.isDigit && decide (tens < '6') && digit.isDigit
  | _ => false

/-- At least two sexagesimal places, with a colon between them. -/
def isSexagesimal (least : Char) (chars : List Char) : Bool :=
  match splitChars ':' chars with
  | first :: second :: rest => isNumeral least first && (second :: rest).all isPlace
  | _ => false

/-- A whole number. -/
def isInt (chars : List Char) : Bool :=
  match withoutSign chars with
  | ['0'] => true
  | '0' :: 'b' :: digits => !digits.isEmpty && digits.all (isDigitOf 2)
  | '0' :: 'x' :: digits => !digits.isEmpty && digits.all (isDigitOf 16)
  | '0' :: digits => digits.all (isDigitOf 8)
  | unsigned => isNumeral '1' unsigned || isSexagesimal '1' unsigned

/-- Nothing, or an exponent with its sign. -/
def isExponent (chars : List Char) : Bool :=
  match chars with
  | [] => true
  | mark :: sign :: digits =>
    (mark == 'e' || mark == 'E') && (sign == '-' || sign == '+') && !digits.isEmpty &&
      digits.all (·.isDigit)
  | _ => false

/-- The digits after a point, with an exponent behind them. -/
def isFraction (chars : List Char) : Bool :=
  isExponent (chars.dropWhile (isDigitOf 10))

/-- A floating-point number. Without a digit before the point it has no sign. -/
def isFloat (chars : List Char) : Bool :=
  notNumberWords.contains (String.ofList chars) ||
    infinityWords.contains (String.ofList (withoutSign chars)) ||
    match chars with
    | '.' :: first :: rest => first.isDigit && isFraction rest
    | _ =>
      match cutAtFirst? '.' (withoutSign chars) with
      | none => false
      | some (whole, fraction) =>
        (isNumeral '0' whole && isFraction fraction) ||
          (isSexagesimal '0' whole && fraction.all (isDigitOf 10))

/-- A date whose month and day have two digits, or a date with a time of day. -/
def isTime (chars : List Char) : Bool :=
  match WrittenTime.ofChars? chars with
  | some time => time.isWide || time.clock.isSome
  | none => false

/-- The tag of a plain scalar. -/
def plainTag (text : String) : Tag :=
  if text = "" then .null
  else
    let chars := lineOf text.toList
    let word := String.ofList chars
    if truthWords.contains word then .bool
    else if isFloat chars then .float
    else if isInt chars then .int
    else if word = "<<" then .merge
    else if nullWords.contains word then .null
    else if isTime chars then .timestamp
    else if word = "=" then .value
    else if ["!", "&", "*"].contains word then .unknown
    else .string

example : plainTag "0o7" = .string := by decide
example : plainTag "010" = .int := by decide
example : plainTag "1:30" = .int := by decide
example : plainTag "1e3" = .string := by decide
example : plainTag "1.e+3" = .float := by decide
example : plainTag "2001-1-1" = .string := by decide
example : plainTag "y" = .string := by decide

end CompilePolicy.Yaml

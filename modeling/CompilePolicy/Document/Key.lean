import CompilePolicy.Decimal.Binary
import CompilePolicy.Document.Value

/-!
# Keys

The keys of a mapping are values that are no containers, and two keys can be one
key without being written alike: truth values are numbers, numbers are compared
by value, and moments by instant. What is no number is one key only with itself,
so a key also says which one it is.
-/

namespace CompilePolicy.Document

open CompilePolicy.Decimal

/-- A key. The mark tells apart floating-point values that are no numbers; it means
nothing for other values. -/
structure Key where
  value : Value
  mark : Nat := 0

/-- A whole number equals a floating-point number if their exact values do. -/
def sameNumber (int : Int) (float : Float) : Bool :=
  if float.isNaN || float.isInf then false
  else
    let size := Binary.ofFloat float
    (int == 0 || decide (int < 0) == isNegative float) &&
      compareScaled int.natAbs 0 size.mantissa size.exponent == .eq

/-- A truth value as a number. -/
def bit (flag : Bool) : Int :=
  if flag then 1 else 0

/-- Whether two values are one key, apart from values that are no numbers. -/
def sameValue : Value → Value → Bool
  | .null, .null => true
  | .bool a, .bool b => a == b
  | .bool a, .int b => bit a == b
  | .int a, .bool b => a == bit b
  | .bool a, .float b => sameNumber (bit a) b
  | .float a, .bool b => sameNumber (bit b) a
  | .int a, .int b => a == b
  | .int a, .float b => sameNumber a b
  | .float a, .int b => sameNumber b a
  | .float a, .float b => a == b
  | .string a, .string b => a == b
  | .bytes a, .bytes b => a == b
  | .date a, .date b => a == b
  | .moment a, .moment b => a.sameInstant b
  | _, _ => false

/-- Whether a value is a floating-point value that is no number. -/
def isNotNumber : Value → Bool
  | .float number => number.isNaN
  | _ => false

/-- Whether two keys are one key. -/
def Key.same (first second : Key) : Bool :=
  sameValue first.value second.value ||
    (isNotNumber first.value && isNotNumber second.value && first.mark == second.mark)

end CompilePolicy.Document

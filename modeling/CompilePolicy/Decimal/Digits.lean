/-!
# Digits of a natural number

Positional digits in bases up to sixteen, and texts of a fixed least width.
-/

namespace CompilePolicy.Decimal

/-- The character of a digit below sixteen. -/
def digitChar (digit : Nat) : Char :=
  if digit < 10 then Char.ofNat ('0'.toNat + digit) else Char.ofNat ('a'.toNat + (digit - 10))

/-- Puts the digits of `value` in front of `rest`. The first argument bounds
the number of digits. -/
def digitsOnto (base : Nat) : Nat → Nat → List Char → List Char
  | 0, _, rest => rest
  | bound + 1, value, rest =>
    if value < base then digitChar value :: rest
    else digitsOnto base bound (value / base) (digitChar (value % base) :: rest)

/-- The digits of a number in a base of at least two, without leading zeros. -/
def digits (base value : Nat) : List Char :=
  digitsOnto base (Nat.log2 value + 1) value []

/-- A number with so many zeros put behind it in a base. -/
def shifted (base count value : Nat) : Nat :=
  value * Nat.pow base count

/-- A text filled up with zeros in front to a least width. -/
def padded (width : Nat) (chars : List Char) : List Char :=
  List.replicate (width - chars.length) '0' ++ chars

/-- A number in decimal. -/
def natText (value : Nat) : String :=
  String.ofList (digits 10 value)

/-- A number in decimal with at least `width` digits. -/
def natTextOfWidth (width value : Nat) : String :=
  String.ofList (padded width (digits 10 value))

/-- A whole number in decimal, with a minus sign when it is negative. -/
def intText : Int → String
  | .ofNat value => natText value
  | .negSucc value => "-" ++ natText (value + 1)

example : natText 0 = "0" := by decide
example : natText 1050 = "1050" := by decide
example : intText (-7) = "-7" := by decide
example : natTextOfWidth 4 42 = "0042" := by decide

end CompilePolicy.Decimal

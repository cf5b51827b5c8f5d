/-!
# Reading decimals

The floating-point number nearest to a decimal. Decimals beyond the range of
finite numbers are settled before any power of ten is computed.
-/

namespace CompilePolicy.Decimal

/-- The value of decimal digits, the first the most significant. -/
def digitsValue (base : Nat) (digits : List Nat) : Nat :=
  digits.foldl (fun value digit => value * base + digit) 0

@[simp]
theorem digitsValue_nil (base : Nat) : digitsValue base [] = 0 :=
  rfl

theorem digitsValue_append (base : Nat) (front : List Nat) (digit : Nat) :
    digitsValue base (front ++ [digit]) = digitsValue base front * base + digit := by
  simp [digitsValue]

/-- The number nearest to `significand * 10 ^ exponent`. -/
def nearestFloat (significand : Nat) (exponent : Int) : Float :=
  let leading : Int := Nat.log2 significand * 30103 / 100000 + exponent
  if significand = 0 ∨ leading < -400 then 0
  else if 400 < leading then 1 / 0
  else if exponent < 0 then Float.ofScientific significand true exponent.natAbs
  else Float.ofScientific significand false exponent.toNat

/-- The number with the given sign and size. -/
def signedFloat (isNegative : Bool) (size : Float) : Float :=
  if isNegative then -size else size

end CompilePolicy.Decimal

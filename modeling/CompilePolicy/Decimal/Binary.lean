import CompilePolicy.Decimal.Digits

/-!
# Finite binary numbers

A finite floating-point number is `mantissa * 2 ^ exponent` with a sign. Which
decimals read back as a given number, and how a number is rounded to decimal
places, is decided here by comparing naturals, without rounding on the way.
-/

namespace CompilePolicy.Decimal

/-- The size of a finite number, `mantissa * 2 ^ exponent`. -/
structure Binary where
  mantissa : Nat
  exponent : Int
  /-- The gap to the number below is half the gap to the number above. -/
  narrowBelow : Bool
deriving DecidableEq, Repr

/-- The size of a finite number. -/
def Binary.ofFloat (x : Float) : Binary :=
  let bits := x.toBits
  let biased := ((bits >>> 52) &&& 0x7FF).toNat
  let fraction := (bits &&& 0xFFFFFFFFFFFFF).toNat
  if biased = 0 then ⟨fraction, -1074, false⟩
  else
    ⟨0x10000000000000 + fraction, (biased : Int) - 1075,
      decide (fraction = 0) && decide (1 < biased)⟩

/-- Whether the sign bit is set, as it is for minus zero. -/
def isNegative (x : Float) : Bool :=
  decide (x.toBits >>> 63 = 1)

/-- A decimal, `significand * 10 ^ exponent`. -/
structure Numeral where
  significand : Nat
  exponent : Int
deriving DecidableEq, Repr

/-- Compares `a * 10 ^ i` with `n * 2 ^ j`, exactly. -/
def compareScaled (a : Nat) (i : Int) (n : Nat) (j : Int) : Ordering :=
  compare (shifted 2 (-j).toNat (shifted 10 i.toNat a))
    (shifted 10 (-i).toNat (shifted 2 j.toNat n))

/-- Whether the number nearest to the decimal is this one. The reals that round
to it end halfway to its neighbours, and the ends belong to it when its
mantissa is even. -/
def Binary.readsBack (size : Binary) (decimal : Numeral) : Bool :=
  let low := if size.narrowBelow then 4 * size.mantissa - 1 else 4 * size.mantissa - 2
  let high := 4 * size.mantissa + 2
  let closed := decide (size.mantissa % 2 = 0)
  let fromLow := compareScaled decimal.significand decimal.exponent low (size.exponent - 2)
  let fromHigh := compareScaled decimal.significand decimal.exponent high (size.exponent - 2)
  (fromLow == .gt || (closed && fromLow == .eq)) &&
    (fromHigh == .lt || (closed && fromHigh == .eq))

/-- A quotient rounded to the nearest natural, a half to the even neighbour. -/
def roundDiv (numerator denominator : Nat) : Nat :=
  let quotient := numerator / denominator
  let rest := numerator % denominator
  if 2 * rest < denominator then quotient
  else if denominator < 2 * rest then quotient + 1
  else if quotient % 2 = 0 then quotient else quotient + 1

/-- The size in units of `10 ^ -places`, rounded to the nearest, a half to the
even neighbour. -/
def Binary.inPlaces (size : Binary) (places : Nat) : Nat :=
  roundDiv (shifted 2 size.exponent.toNat (shifted 10 places size.mantissa))
    (shifted 2 (-size.exponent).toNat 1)

end CompilePolicy.Decimal

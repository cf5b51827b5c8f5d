import CompilePolicy.Decimal.Binary
import CompilePolicy.Decimal.Digits

/-!
# The shortest decimal of a number

A floating-point number is written with the fewest digits that read back as
it. Positional notation is used from `0.0001` up to below `10 ^ 16`, and a
signed exponent of at least two digits elsewhere.
-/

namespace CompilePolicy.Decimal

/-- The least `k` at or above `start` with `size < 10 ^ k`, trying at most
`tries` values. -/
def Binary.scaleFrom (size : Binary) : Nat → Int → Int
  | 0, start => start
  | tries + 1, start =>
    if compareScaled 1 start size.mantissa size.exponent == .gt then start
    else size.scaleFrom tries (start + 1)

/-- The least `k` with `size < 10 ^ k`, for a size that is not zero. The
starting point is a lower estimate from the binary logarithm. -/
def Binary.scale (size : Binary) : Int :=
  let bits := (Nat.log2 size.mantissa : Int) + size.exponent
  size.scaleFrom 8 (bits * 30103 / 100000 - 2)

/-- The size divided by `10 ^ grid`, rounded down. -/
def Binary.floorOnGrid (size : Binary) (grid : Int) : Nat :=
  shifted 10 (-grid).toNat (shifted 2 size.exponent.toNat size.mantissa) /
    shifted 10 grid.toNat (shifted 2 (-size.exponent).toNat 1)

/-- The neighbour of the size on the grid `10 ^ grid` that reads back as it. Of
two such neighbours the closer one is taken, and of two equally close ones the
even one. -/
def Binary.onGrid? (size : Binary) (grid : Int) : Option Numeral :=
  let below : Numeral := ⟨size.floorOnGrid grid, grid⟩
  let above : Numeral := ⟨below.significand + 1, grid⟩
  match size.readsBack below, size.readsBack above with
  | false, false => none
  | true, false => some below
  | false, true => some above
  | true, true =>
    match compareScaled (2 * below.significand + 1) grid (2 * size.mantissa) size.exponent with
    | .gt => some below
    | .lt => some above
    | .eq => some (if below.significand % 2 = 0 then below else above)

/-- The exact value as a decimal. -/
def Binary.exactDecimal (size : Binary) : Numeral :=
  ⟨shifted 5 (-size.exponent).toNat (shifted 2 size.exponent.toNat size.mantissa),
    min size.exponent 0⟩

/-- Moves trailing zeros from the digits to the exponent, at most `bound` of
them. -/
def Numeral.stripZeros : Nat → Numeral → Numeral
  | 0, decimal => decimal
  | bound + 1, decimal =>
    if decimal.significand ≠ 0 ∧ decimal.significand % 10 = 0 then
      stripZeros bound ⟨decimal.significand / 10, decimal.exponent + 1⟩
    else decimal

/-- The decimal of fewest digits, up to seventeen, that reads back as the size. -/
def Binary.shortest (size : Binary) : Numeral :=
  let scale := size.scale
  match (List.range 17).findSome? fun extra => size.onGrid? (scale - (extra + 1 : Nat)) with
  | some decimal => decimal.stripZeros 400
  | none => size.exactDecimal

/-- A decimal that is not zero, positional or with an exponent, whichever the
place of its leading digit asks for. -/
def Numeral.render (decimal : Numeral) : List Char :=
  let chars := digits 10 decimal.significand
  let count : Int := chars.length
  let leading := decimal.exponent + count - 1
  if -4 ≤ leading ∧ leading < 16 then
    if leading < 0 then
      '0' :: '.' :: (List.replicate (-leading - 1).toNat '0' ++ chars)
    else if decimal.exponent < 0 then
      let whole := (leading + 1).toNat
      chars.take whole ++ '.' :: chars.drop whole
    else chars ++ (List.replicate decimal.exponent.toNat '0' ++ ['.', '0'])
  else
    let fraction := if chars.length = 1 then [] else '.' :: chars.drop 1
    let sign := if leading < 0 then '-' else '+'
    chars.take 1 ++ fraction ++ 'e' :: sign :: padded 2 (digits 10 leading.natAbs)

/-- How numbers that have no digits are written. -/
structure SpecialNames where
  notANumber : String
  infinity : String
deriving DecidableEq, Repr

/-- A floating-point number in its shortest form. -/
def floatText (names : SpecialNames) (x : Float) : String :=
  if x.isNaN then names.notANumber
  else
    let sign := if isNegative x then "-" else ""
    if x.isInf then sign ++ names.infinity
    else
      let size := Binary.ofFloat x
      if size.mantissa = 0 then sign ++ "0.0"
      else sign ++ String.ofList size.shortest.render

end CompilePolicy.Decimal

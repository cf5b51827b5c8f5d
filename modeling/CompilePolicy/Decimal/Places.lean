import CompilePolicy.Decimal.Binary
import CompilePolicy.Decimal.Digits

/-!
# A fixed number of decimal places

Times are shown and stored with a fixed number of places. The exact value of
the number is rounded, not its shortest decimal, and a half goes to the even
neighbour.
-/

namespace CompilePolicy.Decimal

/-- A number with exactly `places` places, at least one. -/
def fixedText (places : Nat) (x : Float) : String :=
  if x.isNaN then "nan"
  else
    let sign := if isNegative x then "-" else ""
    if x.isInf then sign ++ "inf"
    else
      let chars := padded (places + 1) (digits 10 ((Binary.ofFloat x).inPlaces places))
      let whole := chars.length - places
      sign ++ String.ofList (chars.take whole ++ '.' :: chars.drop whole)

/-- The number nearest to the value rounded to `places` places. -/
def roundToPlaces (places : Nat) (x : Float) : Float :=
  if x.isNaN || x.isInf then x
  else
    let size := Float.ofScientific ((Binary.ofFloat x).inPlaces places) true places
    if isNegative x then -size else size

end CompilePolicy.Decimal

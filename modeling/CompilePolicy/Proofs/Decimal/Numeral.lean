import CompilePolicy.Decimal.Digits
import Mathlib.Tactic.IntervalCases

/-!
# Numerals

A natural number is written as its decimal numeral, so different numbers are written
differently.
-/

namespace CompilePolicy.Decimal

theorem digitChar_eq {digit : Nat} (small : digit < 10) : digitChar digit = digit.digitChar := by
  interval_cases digit <;> rfl

/-- With room for all digits they are put in front of the rest. -/
theorem digitsOnto_eq {bound value : Nat} (room : value < 10 ^ bound) (positive : 0 < bound)
    (rest : List Char) : digitsOnto 10 bound value rest = Nat.toDigits 10 value ++ rest := by
  induction bound generalizing value rest with
  | zero => cases positive
  | succ bound ih =>
      rw [digitsOnto, Nat.toDigits_eq_if (by decide)]
      split
      · rename_i small
        rw [digitChar_eq small]
        rfl
      · rename_i large
        have less : value / 10 < 10 ^ bound :=
          Nat.div_lt_of_lt_mul (by rwa [Nat.pow_succ, Nat.mul_comm] at room)
        have more : 0 < bound := by
          rcases Nat.eq_zero_or_pos bound with rfl | more
          · omega
          · exact more
        rw [ih less more, digitChar_eq (Nat.mod_lt value (by decide)), List.append_assoc]
        rfl

/-- A number is written as its numeral. -/
theorem natText_eq_repr (value : Nat) : natText value = value.repr := by
  have room : value < 10 ^ (Nat.log2 value + 1) :=
    Nat.lt_of_lt_of_le Nat.lt_log2_self (Nat.pow_le_pow_left (by decide) _)
  rw [natText, digits, digitsOnto_eq room (Nat.succ_pos _), List.append_nil]
  rfl

theorem natText_inj {first second : Nat} : natText first = natText second ↔ first = second := by
  constructor
  · intro same
    rw [natText_eq_repr, natText_eq_repr, Nat.repr, Nat.repr, String.ofList_inj] at same
    have read := congrArg (Nat.ofDigitChars 10 · 0) same
    simpa only [Nat.ofDigitChars_toDigits (by decide : 1 < 10) (by decide)] using read
  · exact congrArg natText

end CompilePolicy.Decimal

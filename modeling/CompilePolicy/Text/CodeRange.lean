/-!
# Ranges of code points

Properties of characters beyond ASCII are given as tables of closed ranges.
A table is a list in ascending order, and a character has the property when
its code point lies in one of the ranges.
-/

namespace CompilePolicy.Text

/-- The code points from `first` to `last`, both included. -/
structure CodeRange where
  first : Nat
  last : Nat
deriving DecidableEq, Repr

/-- Whether a code point lies in the range. -/
def CodeRange.contains (range : CodeRange) (code : Nat) : Bool :=
  decide (range.first ≤ code) && decide (code ≤ range.last)

/-- Whether a code point lies in one of the ranges. -/
def inRanges (ranges : List CodeRange) (code : Nat) : Bool :=
  ranges.any (·.contains code)

theorem CodeRange.contains_iff (range : CodeRange) (code : Nat) :
    range.contains code = true ↔ range.first ≤ code ∧ code ≤ range.last := by
  simp [CodeRange.contains]

theorem inRanges_iff (ranges : List CodeRange) (code : Nat) :
    inRanges ranges code = true ↔
      ∃ range ∈ ranges, range.first ≤ code ∧ code ≤ range.last := by
  simp [inRanges, CodeRange.contains_iff]

end CompilePolicy.Text

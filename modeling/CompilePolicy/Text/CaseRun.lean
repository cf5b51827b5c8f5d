/-!
# Runs of letters

Most letters have their capital or their small letter at a fixed distance, and
neighbouring letters share it. A table of case lists runs of such letters.
-/

namespace CompilePolicy.Text

/-- Every `step`-th letter from `first` to `last` has its other form `shift`
code points further on. -/
structure CaseRun where
  first : Nat
  last : Nat
  step : Nat
  shift : Int
deriving Repr

/-- Whether a letter belongs to the run. -/
def CaseRun.contains (run : CaseRun) (code : Nat) : Bool :=
  decide (run.first ≤ code) && decide (code ≤ run.last) &&
    decide ((code - run.first) % run.step = 0)

/-- The other form of a letter that belongs to one of the runs; any other
character stays. -/
def shiftedBy (runs : List CaseRun) (c : Char) : Char :=
  match runs.find? (·.contains c.toNat) with
  | some run => Char.ofNat (c.toNat + run.shift).toNat
  | none => c

end CompilePolicy.Text

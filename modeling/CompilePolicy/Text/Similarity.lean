/-!
# Similar texts

Two texts are the more similar the more characters they have in common, where
common characters are counted run by run: the longest run first, then what stands
before it in both texts and what stands after it. Names that come close to a
mistyped one are found by this measure.
-/

namespace CompilePolicy.Text

/-- The length of the common start of two texts. -/
def commonStart : List Char → List Char → Nat
  | a :: as, b :: bs => if a = b then commonStart as bs + 1 else 0
  | _, _ => 0

theorem commonStart_le_left (a b : List Char) : commonStart a b ≤ a.length := by
  fun_induction commonStart a b with
  | case1 a as bs ih => simpa using ih
  | case2 => simp
  | case3 => simp

theorem commonStart_le_right (a b : List Char) : commonStart a b ≤ b.length := by
  fun_induction commonStart a b with
  | case1 a as bs ih => simpa using ih
  | case2 => simp
  | case3 => simp

/-- Two texts agree on their common start. -/
theorem take_commonStart (a b : List Char) :
    a.take (commonStart a b) = b.take (commonStart a b) := by
  fun_induction commonStart a b with
  | case1 a as bs ih => simp [ih]
  | case2 => simp
  | case3 => simp

/-- A run of characters that two texts share, with its start in each of them. -/
structure SharedRun where
  first : Nat := 0
  second : Nat := 0
  length : Nat := 0
deriving DecidableEq, Repr

/-- The longer of two runs, and the earlier found of equally long ones. -/
def SharedRun.longer (found next : SharedRun) : SharedRun :=
  if found.length < next.length then next else found

/-- The longest run that two texts share. Of equally long ones it is the earliest in
the first text, and then in the second. -/
def longestRun (a b : List Char) : SharedRun :=
  (List.range a.length).foldl (fun found i =>
    (List.range b.length).foldl (fun found j =>
      found.longer ⟨i, j, commonStart (a.drop i) (b.drop j)⟩) found) {}

/-- The number of characters in common, counted in at most so many rounds. -/
def sharedWithin : Nat → List Char → List Char → Nat
  | 0, _, _ => 0
  | bound + 1, a, b =>
    let run := longestRun a b
    if run.length = 0 then 0
    else
      run.length + sharedWithin bound (a.take run.first) (b.take run.second) +
        sharedWithin bound (a.drop (run.first + run.length)) (b.drop (run.second + run.length))

/-- The number of characters that two texts have in common. Every round takes at
least one character away. -/
def shared (a b : List Char) : Nat :=
  sharedWithin a.length a b

/-- How similar a text is to another one: `part` of `whole`. -/
structure Similarity where
  text : String
  part : Nat
  whole : Nat
deriving DecidableEq, Repr

/-- The similarity of a text to a word. -/
def similarity (word text : String) : Similarity :=
  ⟨text, 2 * shared text.toList word.toList, text.length + word.length⟩

/-- Whether a text comes close: at least three fifths are in common. -/
def Similarity.isClose (similarity : Similarity) : Bool :=
  decide (3 * similarity.whole ≤ 5 * similarity.part)

/-- Whether a text comes before another one: the more similar one first, and the
later in order of two equally similar ones. -/
def Similarity.isBefore (first second : Similarity) : Bool :=
  let ours := first.part * second.whole
  let theirs := second.part * first.whole
  decide (theirs < ours) || (decide (ours = theirs) && decide (second.text ≤ first.text))

/-- The most texts that are offered in the place of a word. -/
def offerLimit : Nat := 3

/-- The texts that come closest to a word, in order. -/
def closeTexts (word : String) (texts : List String) : List String :=
  let close := ((texts.map (similarity word)).filter (·.isClose)).mergeSort (·.isBefore ·)
  ((close.take offerLimit).map (·.text)).mergeSort fun first second => decide (first ≤ second)

example : shared ['a', 'b', 'c'] ['b', 'c', 'a'] = 2 := by decide
example : (similarity "cat" "cut").isClose = true := by decide
example : (similarity "cat" "bus").isClose = false := by decide

end CompilePolicy.Text

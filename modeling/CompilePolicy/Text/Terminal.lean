/-!
# Terminal sequences

A control sequence of a terminal is an escape and a bracket, parameters, blanks
and marks between them and the end, and the character that ends it. The four
kinds are blocks of ASCII. Such sequences have no place in a text that goes to a
file.
-/

namespace CompilePolicy.Text

/-- Whether a character is a parameter of a control sequence. -/
def isParameter (c : Char) : Bool :=
  '0' ≤ c && c ≤ '?'

/-- Whether a character can stand between the parameters and the end of a control
sequence. -/
def isIntermediate (c : Char) : Bool :=
  ' ' ≤ c && c ≤ '/'

/-- Whether a character ends a control sequence. -/
def isFinal (c : Char) : Bool :=
  '@' ≤ c && c ≤ '~'

/-- The characters after a control sequence that begins with these and an escape
before them. -/
def afterSequence? : List Char → Option (List Char)
  | '[' :: rest =>
    match (rest.dropWhile isParameter).dropWhile isIntermediate with
    | c :: later => if isFinal c then some later else none
    | [] => none
  | _ => none

theorem length_dropWhile_le (p : Char → Bool) (chars : List Char) :
    (chars.dropWhile p).length ≤ chars.length :=
  (List.dropWhile_sublist p).length_le

theorem length_of_afterSequence? {chars later : List Char}
    (found : afterSequence? chars = some later) : later.length < chars.length := by
  unfold afterSequence? at found
  split at found
  · rename_i rest
    have bound := Nat.le_trans (length_dropWhile_le isIntermediate (rest.dropWhile isParameter))
      (length_dropWhile_le isParameter rest)
    split at found
    · rename_i c later' cut
      rw [cut] at bound
      split at found
      · cases found
        simp at bound ⊢
        omega
      · cases found
    · cases found
  · cases found

/-- Characters without the control sequences among them. -/
def withoutSequences : List Char → List Char
  | [] => []
  | c :: rest =>
    if c = '\x1b' then
      match h : afterSequence? rest with
      | some later =>
        have := length_of_afterSequence? h
        withoutSequences later
      | none => c :: withoutSequences rest
    else c :: withoutSequences rest
termination_by chars => chars.length

/-- A text without the control sequences in it. -/
def plainText (text : String) : String :=
  String.ofList (withoutSequences text.toList)

/-- A text without an escape is kept. -/
theorem withoutSequences_of_not_mem {chars : List Char} (free : '\x1b' ∉ chars) :
    withoutSequences chars = chars := by
  induction chars with
  | nil => simp [withoutSequences]
  | cons c rest ih =>
    simp only [List.mem_cons, not_or] at free
    rw [withoutSequences, if_neg (Ne.symm free.1), ih free.2]

end CompilePolicy.Text

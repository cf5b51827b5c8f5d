/-!
# Splitting texts

Splitting at a character, cutting at its first or last occurrence, finding a
text inside another, and bringing the line ends of a text to one form.
-/

namespace CompilePolicy.Text

/-- The pieces between the occurrences of a separator; there is always at least
one piece. -/
def splitChars (separator : Char) : List Char → List (List Char)
  | [] => [[]]
  | c :: rest =>
    match splitChars separator rest with
    | [] => [[c]]
    | piece :: pieces =>
      if c = separator then [] :: piece :: pieces else (c :: piece) :: pieces

/-- The pieces of a text between the occurrences of a separator. -/
def splitText (separator : Char) (text : String) : List String :=
  (splitChars separator text.toList).map String.ofList

/-- What stands before and after the first occurrence of a separator. -/
def cutAtFirst? (separator : Char) : List Char → Option (List Char × List Char)
  | [] => none
  | c :: rest =>
    if c = separator then some ([], rest)
    else (cutAtFirst? separator rest).map fun (before, after) => (c :: before, after)

/-- What stands before and after the last occurrence of a separator. -/
def cutAtLast? (separator : Char) (chars : List Char) : Option (List Char × List Char) :=
  (cutAtFirst? separator chars.reverse).map fun (after, before) => (before.reverse, after.reverse)

/-- Whether some characters stand somewhere among others, one after the other. -/
def standsIn (part : List Char) : List Char → Bool
  | [] => part.isEmpty
  | c :: rest => part.isPrefixOf (c :: rest) || standsIn part rest

theorem standsIn_iff (part chars : List Char) :
    standsIn part chars = true ↔ part <:+: chars := by
  induction chars with
  | nil => simp [standsIn]
  | cons c rest ih => simp [standsIn, List.infix_cons_iff, ih]

/-- Whether `part` occurs somewhere in `text`. The empty text occurs in every
text. -/
def occursIn (part text : String) : Bool :=
  standsIn part.toList text.toList

theorem occursIn_iff (part text : String) :
    occursIn part text = true ↔ part.toList <:+: text.toList :=
  standsIn_iff part.toList text.toList

/-- Replaces every line end, a carriage return with or without a line feed
after it, by a line feed. -/
def unifyLineEnds : List Char → List Char
  | [] => []
  | '\r' :: '\n' :: rest => '\n' :: unifyLineEnds rest
  | '\r' :: rest => '\n' :: unifyLineEnds rest
  | c :: rest => c :: unifyLineEnds rest

/-- Replaces one character by another everywhere. -/
def replaceChar (old new : Char) (text : String) : String :=
  String.ofList (text.toList.map fun c => if c = old then new else c)

theorem splitChars_ne_nil (separator : Char) (chars : List Char) :
    splitChars separator chars ≠ [] := by
  induction chars with
  | nil => simp [splitChars]
  | cons c rest ih =>
    simp only [splitChars]
    split
    · simp
    · split <;> simp

end CompilePolicy.Text

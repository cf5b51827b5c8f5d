import CompilePolicy.Decimal.Shortest
import CompilePolicy.Document.Value
import CompilePolicy.Text.Quoted

/-!
# The text of a value

Names and messages show values of any type. A value is shown with its strings
quoted and its containers in brackets; as a text of its own, a string stands
for itself and a date is written in digits. A container that is shown inside
itself is an ellipsis in its brackets. Whole numbers of more than 4300 digits
have no text, and then neither has a value that contains one.
-/

namespace CompilePolicy.Document

open CompilePolicy.Decimal

/-- The most digits a whole number can have to be shown. -/
def maxDigits : Nat := 4300

/-- A whole number in decimal, unless it has too many digits. -/
def intText? (number : Int) : Option String :=
  if (digits 10 number.natAbs).length ≤ maxDigits then some (intText number) else none

/-- What is wrong with a whole number that has too many digits to be shown. -/
def unshownMessage : String :=
  "Exceeds the limit (" ++ natText maxDigits ++
    " digits) for integer string conversion; use sys.set_int_max_str_digits() to increase the limit"

/-- What is wrong with a written number that has too many digits to be read. -/
def tooManyDigitsMessage (count : Nat) : String :=
  "Exceeds the limit (" ++ natText maxDigits ++
    " digits) for integer string conversion: value has " ++ natText count ++
    " digits; use sys.set_int_max_str_digits() to increase the limit"

/-- Floating-point numbers in messages. -/
def shownSpecials : SpecialNames where
  notANumber := "nan"
  infinity := "inf"

/-- A container inside itself. -/
def Shape.ellipsis : Shape → String
  | .list => "[...]"
  | .pair => "(...)"
  | .map => "\x7b...\x7d"

/-- The brackets around the items of a set. -/
def setText (members : List String) : String :=
  if members.isEmpty then "set()" else "\x7b" ++ ", ".intercalate members ++ "\x7d"

mutual

/-- A value with its strings quoted. `within` are the labels of the knots
around it. -/
def shownWithin? (within : List Nat) : Value → Option String
  | .null => some "None"
  | .bool flag => some (if flag then "True" else "False")
  | .int number => intText? number
  | .float number => some (floatText shownSpecials number)
  | .string text => some (Text.quoted text)
  | .bytes content => some (Text.quotedBytes content)
  | .date day => some day.shown
  | .moment instant => some instant.shown
  | .list items => (shownItems? within items).map fun texts => "[" ++ ", ".intercalate texts ++ "]"
  | .pair first second =>
    (shownWithin? within first).bind fun firstText =>
      (shownWithin? within second).map fun secondText =>
        "(" ++ firstText ++ ", " ++ secondText ++ ")"
  | .set members => (shownItems? within members).map setText
  | .map entries =>
    (shownEntries? within entries).map fun texts =>
      "\x7b" ++ ", ".intercalate texts ++ "\x7d"
  | .knot label body =>
    if within.contains label then
      some (match body with
        | .map _ => Shape.ellipsis .map
        | .pair _ _ => Shape.ellipsis .pair
        | _ => Shape.ellipsis .list)
    else shownWithin? (label :: within) body
  | .again _ shape => some shape.ellipsis

/-- The items of a container, each as `shownWithin?` shows it. -/
def shownItems? (within : List Nat) : List Value → Option (List String)
  | [] => some []
  | item :: rest =>
    (shownWithin? within item).bind fun text => (shownItems? within rest).map (text :: ·)

/-- The entries of a mapping, each as key, colon and value. -/
def shownEntries? (within : List Nat) : List (Value × Value) → Option (List String)
  | [] => some []
  | (key, value) :: rest =>
    (shownWithin? within key).bind fun keyText =>
      (shownWithin? within value).bind fun valueText =>
        (shownEntries? within rest).map ((keyText ++ ": " ++ valueText) :: ·)

end

/-- A value as messages show it, with its strings quoted. -/
def Value.shown? (value : Value) : Option String :=
  shownWithin? [] value

/-- A value as a text of its own. -/
def Value.text? : Value → Option String
  | .string text => some text
  | .date day => some day.text
  | .moment instant => some (instant.text " ")
  | value => value.shown?

/-- The texts of several values, if all have one. -/
def texts? (values : List Value) : Option (List String) :=
  values.mapM (·.text?)

@[simp]
theorem Value.text?_string (text : String) : (Value.string text).text? = some text :=
  rfl

example : (Value.knot 0 (.list [.again 0 .list])).shown? = some "[[...]]" := by decide
example : (Value.map [(.string "a", .list [.int 1, .null])]).shown? =
    some "\x7b'a': [1, None]\x7d" := by decide

end CompilePolicy.Document

import CompilePolicy.Decimal.Shortest
import CompilePolicy.Document.Render
import CompilePolicy.Text.Half

/-!
# Writing JSON

A value as JSON over several lines, two spaces deeper for each level. Only ASCII
is written: other characters are given by their code units, and those beyond the
basic plane by two of them.
-/

namespace CompilePolicy.Json

open CompilePolicy.Decimal CompilePolicy.Document

/-- A code unit in four hexadecimal digits. -/
def unitEscape (unit : Nat) : List Char :=
  '\\' :: 'u' :: padded 4 (digits 16 unit)

/-- A character by its code units. -/
def codedChar (code : Nat) : List Char :=
  if code < 0x10000 then unitEscape code
  else
    unitEscape (0xD800 + (code - 0x10000) / 0x400) ++
      unitEscape (0xDC00 + (code - 0x10000) % 0x400)

/-- A character between quotes. -/
def writtenChar (c : Char) : List Char :=
  match c with
  | '\x22' => ['\\', '\x22']
  | '\\' => ['\\', '\\']
  | '\n' => ['\\', 'n']
  | '\r' => ['\\', 'r']
  | '\t' => ['\\', 't']
  | '\x08' => ['\\', 'b']
  | '\x0C' => ['\\', 'f']
  | _ => if 0x20 ≤ c.toNat ∧ c.toNat < 0x7F then [c] else codedChar c.toNat

/-- A code between quotes. A half of a pair is a code unit of its own. -/
def writtenCode (code : Nat) : List Char :=
  if Text.isHalf code then unitEscape code else writtenChar (Char.ofNat code)

/-- A text between quotes. -/
def writtenText (text : String) : String :=
  String.ofList ('\x22' :: ((Text.codes text.toList).flatMap writtenCode ++ ['\x22']))

/-- Floating-point numbers in JSON. -/
def writtenSpecials : SpecialNames where
  notANumber := "NaN"
  infinity := "Infinity"

/-- A line break with the indentation of a level. -/
def lineBreak (level : Nat) : String :=
  String.ofList ('\n' :: List.replicate (2 * level) ' ')

/-- The members of a container between its brackets. -/
def bracketed (opening closing : String) (level : Nat) (members : List String) : String :=
  if members.isEmpty then opening ++ closing
  else
    opening ++ lineBreak (level + 1) ++ (("," ++ lineBreak (level + 1)).intercalate members) ++
      lineBreak level ++ closing

/-- The text of a key. -/
def keyText : Value → String
  | .null => "null"
  | .bool flag => if flag then "true" else "false"
  | .int number => intText number
  | .float number => floatText writtenSpecials number
  | other => other.text?.getD ""

mutual

/-- A value at a level. A value that JSON does not know is written as its
text. -/
def written (level : Nat) : Value → String
  | .null => "null"
  | .bool flag => if flag then "true" else "false"
  | .int number => intText number
  | .float number => floatText writtenSpecials number
  | .string text => writtenText text
  | .list items => bracketed "[" "]" level (writtenItems (level + 1) items)
  | .pair first second =>
    bracketed "[" "]" level [written (level + 1) first, written (level + 1) second]
  | .map entries => bracketed "\x7b" "\x7d" level (writtenEntries (level + 1) entries)
  | other => writtenText (other.text?.getD "")

/-- The items of a list. -/
def writtenItems (level : Nat) : List Value → List String
  | [] => []
  | item :: rest => written level item :: writtenItems level rest

/-- The entries of a mapping. -/
def writtenEntries (level : Nat) : List (Value × Value) → List String
  | [] => []
  | (key, value) :: rest =>
    (writtenText (keyText key) ++ ": " ++ written level value) :: writtenEntries level rest

end

/-- A value as JSON. -/
def write (value : Value) : String :=
  written 0 value

example : write (.record [("a", .list [.int 1, .null]), ("b", .map [])]) =
    "\x7b\n  \"a\": [\n    1,\n    null\n  ],\n  \"b\": \x7b\x7d\n\x7d" := by decide

end CompilePolicy.Json

import CompilePolicy.Calendar

/-!
# Document values

What a YAML or JSON document stands for. A mapping keeps its entries in order,
and its keys can be any scalar. A document may contain itself: a container that
is reached again inside itself is a `knot`, and a place where it is reached is
`again` with the same label. Every container on such a way is a knot, so a label
tells which container it is. `Value.untie` replaces the places by the knot, so a
reader who unties each value before looking at it sees the unbounded value.
-/

namespace CompilePolicy.Document

/-- The containers that can contain themselves. -/
inductive Shape where
  | list
  | pair
  | map
deriving DecidableEq, Repr

/-- A document value. -/
inductive Value where
  | null
  | bool (flag : Bool)
  | int (number : Int)
  | float (number : Float)
  | string (text : String)
  | bytes (content : List UInt8)
  | date (date : Calendar.Date)
  | moment (moment : Calendar.Moment)
  | list (items : List Value)
  | pair (first second : Value)
  | set (members : List Value)
  | map (entries : List (Value × Value))
  | knot (label : Nat) (body : Value)
  | again (label : Nat) (shape : Shape)
deriving Repr, Inhabited

/-- The entries of a mapping, in order. -/
abbrev Entries := List (Value × Value)

mutual

/-- Replaces the places that lead back to `label`. A knot inside with the same
label keeps its own places. -/
def retie (label : Nat) (target : Value) : Value → Value
  | .again other shape => if other = label then target else .again other shape
  | .list items => .list (retieItems label target items)
  | .pair first second => .pair (retie label target first) (retie label target second)
  | .set members => .set (retieItems label target members)
  | .map entries => .map (retieEntries label target entries)
  | .knot other body => .knot other (if other = label then body else retie label target body)
  | value => value

/-- `retie` on each item. -/
def retieItems (label : Nat) (target : Value) : List Value → List Value
  | [] => []
  | item :: rest => retie label target item :: retieItems label target rest

/-- `retie` on each key and each value. -/
def retieEntries (label : Nat) (target : Value) : List (Value × Value) → List (Value × Value)
  | [] => []
  | (key, value) :: rest =>
    (retie label target key, retie label target value) :: retieEntries label target rest

end

/-- The value with its outermost knot opened once. -/
def Value.untie : Value → Value
  | .knot label body => retie label (.knot label body) body
  | value => value

/-- The name of a value's type, as messages show it. -/
def Value.typeName (value : Value) : String :=
  match value.untie with
  | .null => "NoneType"
  | .bool _ => "bool"
  | .int _ => "int"
  | .float _ => "float"
  | .string _ => "str"
  | .bytes _ => "bytes"
  | .date _ => "date"
  | .moment _ => "datetime"
  | .list _ => "list"
  | .pair _ _ => "tuple"
  | .set _ => "set"
  | .map _ => "dict"
  | .knot _ _ => "list"
  | .again _ .list => "list"
  | .again _ .pair => "tuple"
  | .again _ .map => "dict"

/-- Whether a value stands for something: null, false, zero and everything
empty do not. -/
def Value.isTruthy (value : Value) : Bool :=
  match value.untie with
  | .null => false
  | .bool flag => flag
  | .int number => number != 0
  | .float number => number != 0
  | .string text => !text.isEmpty
  | .bytes content => !content.isEmpty
  | .list items => !items.isEmpty
  | .set members => !members.isEmpty
  | .map entries => !entries.isEmpty
  | _ => true

/-- The entries, if the value is a mapping. -/
def Value.entries? (value : Value) : Option Entries :=
  match value.untie with
  | .map entries => some entries
  | _ => none

/-- The items, if the value is a list. -/
def Value.items? (value : Value) : Option (List Value) :=
  match value.untie with
  | .list items => some items
  | _ => none

/-- The text, if the value is a string. -/
def Value.string? : Value → Option String
  | .string text => some text
  | _ => none

/-- The value under a text key. -/
def Entries.get? (entries : Entries) (key : String) : Option Value :=
  (entries.find? fun entry => entry.1.string? == some key).map (·.2)

/-- The value under a text key, where a missing key counts as null. -/
def Entries.get (entries : Entries) (key : String) : Value :=
  (entries.get? key).getD .null

/-- A mapping with text keys. -/
def Value.record (fields : List (String × Value)) : Value :=
  .map (fields.map fun field => (.string field.1, field.2))

/-- A list of texts. -/
def Value.strings (texts : List String) : Value :=
  .list (texts.map .string)

theorem Value.string?_eq_some_iff {value : Value} {text : String} :
    value.string? = some text ↔ value = .string text := by
  cases value <;> simp [Value.string?]

end CompilePolicy.Document

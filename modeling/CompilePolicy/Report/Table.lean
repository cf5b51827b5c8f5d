import CompilePolicy.Csv
import CompilePolicy.Decimal.Reading
import CompilePolicy.Document.Render
import CompilePolicy.Rule.Diagnostic

/-!
# The table of diagnostics

One row for each diagnostic, in the order in which they were reported. There is a
column for each name that some diagnostic gives a value, in the order in which
the names first appear. The lists of rejected extensions are joined to texts, and
such a list with something else than texts in it has no table.
-/

namespace CompilePolicy.Report

open CompilePolicy.Decimal CompilePolicy.Document

/-- The columns of a table without rows. -/
def fixedColumns : List String :=
  ["unit", "owner", "node_kind", "node_name", "rule_id", "message"]

/-- A row: its values by the names of their columns. -/
abbrev Row := List (String × Value)

/-- The column whose lists are joined. -/
def rejectedColumn : String := "rejected"

/-- An item of a list that is to be joined and is no text. -/
structure ItemFault where
  position : Nat
  typeName : String
deriving DecidableEq, Repr

/-- The message for an item that is no text. -/
def ItemFault.message (fault : ItemFault) : String :=
  "sequence item " ++ natText fault.position ++ ": expected str instance, " ++
    fault.typeName ++ " found"

/-- The texts in a list whose first item has a position. -/
def textsFrom (position : Nat) : List Value → Except ItemFault (List String)
  | [] => .ok []
  | .string text :: rest => (textsFrom (position + 1) rest).map (text :: ·)
  | other :: _ => .error ⟨position, other.typeName⟩

/-- The value of a column with its list joined, if it is the column for that. -/
def joinedValue (column : String) (value : Value) : Except ItemFault Value :=
  match value with
  | .list items =>
    if column = rejectedColumn then
      (textsFrom 0 items).map fun texts => .string (";".intercalate texts)
    else .ok value
  | _ => .ok value

/-- A row with its list joined. -/
def joinedRow : Row → Except ItemFault Row
  | [] => .ok []
  | (column, value) :: rest => do
    let joined ← joinedValue column value
    return (column, joined) :: (← joinedRow rest)

/-- Rows with their lists joined. -/
def joinedRows : List Row → Except ItemFault (List Row)
  | [] => .ok []
  | row :: rest => do
    let joined ← joinedRow row
    return joined :: (← joinedRows rest)

/-- Adds the names that are not yet listed. -/
def addColumns (columns names : List String) : List String :=
  names.foldl (fun known name => if known.contains name then known else known ++ [name]) columns

/-- The columns of rows. -/
def columnsOf (rows : List Row) : List String :=
  if rows.isEmpty then fixedColumns
  else rows.foldl (fun columns row => addColumns columns (row.map (·.1))) []

/-- Whether a value is a whole number. -/
def isWhole : Value → Bool
  | .int _ => true
  | _ => false

/-- Whether a value is a number or missing. -/
def isNumberOrMissing : Value → Bool
  | .null => true
  | .int _ => true
  | .float _ => true
  | _ => false

/-- The whole number that a value is. -/
def whole? : Value → Option Int
  | .int number => some number
  | _ => none

/-- The greatest signed and the greatest unsigned integer of 64 bits. -/
def maxSigned : Int := 9223372036854775807

@[inherit_doc maxSigned]
def maxUnsigned : Int := 18446744073709551615

/-- Whether numbers are all signed or all unsigned integers of 64 bits. -/
def fitMachine (numbers : List Int) : Bool :=
  numbers.all (fun number => decide (-maxSigned - 1 ≤ number) && decide (number ≤ maxSigned)) ||
    numbers.all fun number => decide (0 ≤ number) && decide (number ≤ maxUnsigned)

/-- Whether a column holds numbers that are not all whole. The whole ones among
them are then written like the others, unless they are too large for that. -/
def isFractional (values : List Value) : Bool :=
  values.all isNumberOrMissing && !values.all isWhole && fitMachine (values.filterMap whole?)

/-- A cell of a column. -/
def cellText (fractional : Bool) (value : Value) : String :=
  match value with
  | .null => ""
  | .int number =>
    if fractional then
      floatText shownSpecials
        (signedFloat (decide (number < 0)) (nearestFloat number.natAbs 0))
    else intText number
  | .float number => if number.isNaN then "" else floatText shownSpecials number
  | other => other.text?.getD ""

/-- The value of a row in a column. -/
def valueIn (column : String) (row : Row) : Value :=
  (row.lookup column).getD .null

/-- The columns of rows, each with whether its whole numbers are written like
fractions. -/
def styledColumns (rows : List Row) : List (String × Bool) :=
  (columnsOf rows).map fun column => (column, isFractional (rows.map (valueIn column)))

/-- The table of rows. -/
def tableOf (rows : List Row) : String :=
  let columns := styledColumns rows
  Csv.table (columns.map (·.1))
    (rows.map fun row => columns.map fun (column, fractional) =>
      cellText fractional (valueIn column row))

/-- The table of diagnostics. -/
def table (diagnostics : List Diagnostic) : Except ItemFault String :=
  (joinedRows (diagnostics.map Diagnostic.fields)).map tableOf

end CompilePolicy.Report

/-!
# The pen

What has been written of a document, and where the pen stands: how far into the
line, whether a blank or nothing stands before it, and whether nothing but
indentation and marks of items stands before it on its line.
-/

namespace CompilePolicy.Yaml

/-- The width beyond which lines are folded. -/
def lineWidth : Nat := 80

/-- How much deeper each level is indented. -/
def indentWidth : Nat := 2

/-- A pen. -/
structure Pen where
  /-- What is written, the last character first. -/
  written : List Char := []
  column : Nat := 0
  /-- A blank or the start of the line stands before the pen. -/
  isAfterBlank : Bool := true
  /-- Only indentation stands before the pen on its line. -/
  isAtIndent : Bool := true

namespace Pen

/-- What is written. -/
def text (pen : Pen) : String :=
  String.ofList pen.written.reverse

/-- Writes characters within a line. -/
def write (chars : List Char) (pen : Pen) : Pen :=
  { pen with written := chars.reverse ++ pen.written, column := pen.column + chars.length }

/-- Says that something besides indentation has been written. -/
def touch (pen : Pen) : Pen :=
  { pen with isAfterBlank := false, isAtIndent := false }

/-- Writes a mark right where the pen stands. -/
def mark (chars : List Char) (pen : Pen) : Pen :=
  (pen.write chars).touch

/-- Writes a mark with a blank before it. -/
def spacedMark (chars : List Char) (pen : Pen) : Pen :=
  pen.mark (if pen.isAfterBlank then chars else ' ' :: chars)

/-- Writes the mark of an item or of an entry: what follows it on the line still
counts as indented. -/
def itemMark (c : Char) (pen : Pen) : Pen :=
  { pen.spacedMark [c] with isAtIndent := pen.isAtIndent }

/-- Ends the line. -/
def breakLine (pen : Pen) : Pen :=
  { written := '\n' :: pen.written, column := 0, isAfterBlank := true, isAtIndent := true }

/-- Fills the line up with spaces as far as a column. -/
def fillTo (column : Nat) (pen : Pen) : Pen :=
  if pen.column < column then
    { pen.write (List.replicate (column - pen.column) ' ') with isAfterBlank := true }
  else pen

/-- Goes to a column at which a line can begin: on this line if nothing but
indentation stands before the column, and else on the next one. -/
def indentTo (column : Nat) (pen : Pen) : Pen :=
  if !pen.isAtIndent || decide (column < pen.column) ||
      (decide (pen.column = column) && !pen.isAfterBlank) then
    pen.breakLine.fillTo column
  else pen.fillTo column

end Pen

end CompilePolicy.Yaml

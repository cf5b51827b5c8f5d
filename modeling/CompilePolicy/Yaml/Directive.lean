import CompilePolicy.Decimal.Reading
import CompilePolicy.Yaml.BlockText
import CompilePolicy.Yaml.Property

/-!
# Directives

Lines in front of a document that give the version of the language or the
meaning of a tag handle. Other directives are read and ignored.
-/

namespace CompilePolicy.Yaml

open CompilePolicy.Decimal

/-- A directive. -/
inductive Directive where
  | version (major : Nat)
  | handle (handle meaning : String)
  | ignored
deriving DecidableEq, Repr

/-- One of the numbers of a version. -/
def readVersionNumber (cursor : Cursor) : Except Fault (Nat × Cursor) :=
  let (digits, after) := cursor.takeWhile (·.isDigit)
  if digits.isEmpty then .error .malformed
  else if Document.maxDigits < digits.length then .error (.tooManyDigits digits.length)
  else .ok (digitsValue 10 (digits.map fun c => c.toNat - '0'.toNat), after)

/-- A version, two numbers with a dot between them. -/
def readVersion (cursor : Cursor) : Except Fault (Directive × Cursor) :=
  match readVersionNumber cursor.skipSpaces with
  | .error fault => .error fault
  | .ok (major, afterMajor) =>
    if afterMajor.next? == some '.' then
      match readVersionNumber afterMajor.advance with
      | .error fault => .error fault
      | .ok (_, after) =>
        if endsAtSpace after.next? then .ok (.version major, after) else .error .malformed
    else .error .malformed

/-- A tag handle and what it stands for. -/
def readHandleMeaning (cursor : Cursor) : Except Fault (Directive × Cursor) :=
  match readHandle cursor.skipSpaces with
  | .error fault => .error fault
  | .ok (handle, afterHandle) =>
    if afterHandle.next? == some ' ' then
      match readTagChars afterHandle.skipSpaces with
      | .error fault => .error fault
      | .ok (meaning, after) =>
        if endsAtSpace after.next? then .ok (.handle handle meaning, after)
        else .error .malformed
    else .error .malformed

/-- What stands after the name of a directive. -/
def readDirectiveValue (name : String) (cursor : Cursor) : Except Fault (Directive × Cursor) :=
  if name = "YAML" then readVersion cursor
  else if name = "TAG" then readHandleMeaning cursor
  else .ok (.ignored, cursor.skipLine)

/-- The directive at the cursor, from its percent sign to the end of its line. -/
def readDirective (cursor : Cursor) : Except Fault (Directive × Cursor) :=
  let (name, afterName) := cursor.advance.takeWhile isNameChar
  if name.isEmpty || !endsAtSpace afterName.next? then .error .malformed
  else
    match readDirectiveValue (String.ofList name) afterName with
    | .error fault => .error fault
    | .ok (directive, after) =>
      (skipIgnoredLine after).map fun following => (directive, following)

end CompilePolicy.Yaml

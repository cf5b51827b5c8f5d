import CompilePolicy.Calendar
import CompilePolicy.Document.Render
import CompilePolicy.Text.Quoted

/-!
# Faults of YAML documents

A text is refused as a whole, or one of its escapes or scalars asks for a value
that does not exist. Only the second kind says what is wrong.
-/

namespace CompilePolicy.Yaml

open CompilePolicy.Decimal

/-- Why a text is no document. -/
inductive Fault where
  /-- The text breaks the grammar, or a tag does not fit what it stands at. -/
  | malformed
  /-- An escape asks for a code point beyond the last one. -/
  | noCharacter
  /-- An escape asks for a code point that is no machine integer. -/
  | codeTooLarge
  /-- A tagged truth value is none of the known words. -/
  | notTruth (text : String)
  /-- A number has no character besides its sign. -/
  | emptyNumber
  /-- A whole number is not written in its base. -/
  | notInteger (base : Nat) (text : String)
  /-- A whole number has too many digits. -/
  | tooManyDigits (count : Nat)
  /-- A number is not written as a decimal. -/
  | notDecimal (text : String)
  /-- The unit of a sexagesimal place exceeds the floating-point numbers. -/
  | unitTooLarge
  /-- A tagged time is not written as one. -/
  | notTime
  /-- A tagged time is a mapping in which one entry stands for the whole. -/
  | timeInMapping
  /-- A mapping in which one entry stands for the whole is that entry. -/
  | endless
  /-- A date or time does not exist. -/
  | calendar (fault : Calendar.Fault)
deriving DecidableEq, Repr

/-- The most characters of a number that a message shows. -/
def shownNumberLimit : Nat := 200

/-- What a fault says, if it says anything. -/
def Fault.message? : Fault → Option String
  | .malformed => none
  | .noCharacter => some "chr() arg not in range(0x110000)"
  | .codeTooLarge => some "Python int too large to convert to C int"
  | .notTruth text => some (Text.quoted text)
  | .emptyNumber => some "string index out of range"
  | .notInteger base text =>
    some ("invalid literal for int() with base " ++ natText base ++ ": " ++
      String.ofList ((Text.quoted text).toList.take shownNumberLimit))
  | .tooManyDigits count => some (Document.tooManyDigitsMessage count)
  | .notDecimal text => some ("could not convert string to float: " ++ Text.quoted text)
  | .unitTooLarge => some "int too large to convert to float"
  | .notTime => some "'NoneType' object has no attribute 'groupdict'"
  | .timeInMapping => some "expected string or bytes-like object, got 'list'"
  | .endless => some "maximum recursion depth exceeded"
  | .calendar fault => some fault.message

end CompilePolicy.Yaml

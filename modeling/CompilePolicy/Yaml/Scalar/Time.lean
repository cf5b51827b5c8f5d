import CompilePolicy.Decimal.Reading
import CompilePolicy.Document.Value

/-!
# Written times

A date, or a date with a time of day, as a document writes it. Fields are read
as digits here; whether the date exists is decided when it becomes a value.
-/

namespace CompilePolicy.Yaml

open CompilePolicy.Calendar CompilePolicy.Decimal

/-- How a time is related to universal time. -/
inductive Zone where
  | local
  | universal
  | offset (isNegative : Bool) (hours minutes : Nat)
deriving DecidableEq, Repr

/-- A written time of day. The fraction of a second is a list of digits. -/
structure WrittenClock where
  hour : Nat
  minute : Nat
  second : Nat
  fraction : List Nat
  zone : Zone
deriving DecidableEq, Repr

/-- A written date with the time of day behind it. -/
structure WrittenTime where
  date : Date
  /-- Month and day both have two digits. -/
  isWide : Bool
  clock : Option WrittenClock
deriving DecidableEq, Repr

/-- The value of an ASCII digit. -/
def asciiDigit? (c : Char) : Option Nat :=
  if c.isDigit then some (c.toNat - '0'.toNat) else none

/-- Exactly `count` digits. -/
def takeExactly (count : Nat) (chars : List Char) : Option (List Nat × List Char) :=
  match (chars.take count).mapM asciiDigit? with
  | some digits => if digits.length = count then some (digits, chars.drop count) else none
  | none => none

/-- Two digits, or else one. -/
def takeOneOrTwo (chars : List Char) : Option (List Nat × List Char) :=
  match takeExactly 2 chars with
  | some result => some result
  | none => takeExactly 1 chars

/-- The characters after `c`, if they start with it. -/
def after? (c : Char) : List Char → Option (List Char)
  | [] => none
  | first :: rest => if first = c then some rest else none

/-- A whole number of the digits. -/
def number (digits : List Nat) : Nat :=
  digitsValue 10 digits

/-- The minutes of an offset, if they are written. -/
def readOffsetMinutes (chars : List Char) : Option (Nat × List Char) :=
  match after? ':' chars with
  | none => some (0, chars)
  | some rest => (takeExactly 2 rest).map fun (minutes, after) => (number minutes, after)

/-- A zone that fills the rest of the text. -/
def readZone (chars : List Char) : Option Zone :=
  match chars.dropWhile fun c => c == ' ' || c == '\t' with
  | [] => if chars.isEmpty then some .local else none
  | 'Z' :: [] => some .universal
  | sign :: rest => do
    let isNegative ← if sign = '-' then some true else if sign = '+' then some false else none
    let (hours, afterHours) ← takeOneOrTwo rest
    let (minutes, after) ← readOffsetMinutes afterHours
    if after.isEmpty then some (.offset isNegative (number hours) minutes) else none

/-- The digits after a point, if there is one. -/
def readFractionDigits (chars : List Char) : List Nat × List Char :=
  match after? '.' chars with
  | none => ([], chars)
  | some rest => ((rest.takeWhile (·.isDigit)).filterMap asciiDigit?, rest.dropWhile (·.isDigit))

/-- A time of day that fills the rest of the text. -/
def readClock (chars : List Char) : Option WrittenClock := do
  let (hour, afterHour) ← takeOneOrTwo chars
  let (minute, afterMinute) ← takeExactly 2 (← after? ':' afterHour)
  let (second, afterSecond) ← takeExactly 2 (← after? ':' afterMinute)
  let (fraction, afterFraction) := readFractionDigits afterSecond
  let zone ← readZone afterFraction
  some { hour := number hour, minute := number minute, second := number second, fraction, zone }

/-- What stands between a date and a time of day: a letter, or blanks. -/
def clockPart? (chars : List Char) : Option (List Char) :=
  match chars with
  | c :: rest =>
    if c = 'T' ∨ c = 't' then some rest
    else if c = ' ' ∨ c = '\t' then some (rest.dropWhile fun c => c == ' ' || c == '\t')
    else none
  | [] => none

/-- Reads a written time. -/
def WrittenTime.ofChars? (chars : List Char) : Option WrittenTime := do
  let (year, afterYear) ← takeExactly 4 chars
  let (month, afterMonth) ← takeOneOrTwo (← after? '-' afterYear)
  let (day, afterDay) ← takeOneOrTwo (← after? '-' afterMonth)
  let date : Date := ⟨number year, number month, number day⟩
  let isWide := month.length == 2 && day.length == 2
  match afterDay with
  | [] => some { date, isWide, clock := none }
  | _ => do
    let clock ← readClock (← clockPart? afterDay)
    some { date, isWide, clock := some clock }

/-- The characters of a line: a line feed at the end does not count. -/
def lineOf (chars : List Char) : List Char :=
  if chars.getLast? = some '\n' then chars.dropLast else chars

/-- Microseconds of a fraction: its first six digits. -/
def microseconds (fraction : List Nat) : Nat :=
  let digits := fraction.take 6
  number (digits ++ List.replicate (6 - digits.length) 0)

/-- The offset of a zone in seconds. -/
def Zone.offset? : Zone → Option Int
  | .local => none
  | .universal => some 0
  | .offset isNegative hours minutes =>
    let seconds : Int := hours * 3600 + minutes * 60
    some (if isNegative then -seconds else seconds)

/-- The date or moment that is written. The offset is checked first. -/
def WrittenTime.value (time : WrittenTime) : Except Calendar.Fault Document.Value :=
  match time.clock with
  | none =>
    match time.date.fault? with
    | some fault => .error fault
    | none => .ok (.date time.date)
  | some clock =>
    let offset := clock.zone.offset?
    match offset.bind offsetFault? with
    | some fault => .error fault
    | none =>
      let moment : Moment :=
        ⟨time.date, clock.hour, clock.minute, clock.second, microseconds clock.fraction, offset⟩
      match moment.fault? with
      | some fault => .error fault
      | none => .ok (.moment moment)

end CompilePolicy.Yaml

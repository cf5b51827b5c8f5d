import CompilePolicy.Decimal.Digits

/-!
# Dates and moments

Dates and times of the Gregorian calendar from year 1 to 9999, with an optional
offset from universal time, and the texts that show them. A date or time is
checked field by field, the largest field first, and the first field out of
range is the fault.
-/

namespace CompilePolicy.Calendar

open CompilePolicy.Decimal

/-- A day of the calendar. -/
structure Date where
  year : Nat
  month : Nat
  day : Nat
deriving DecidableEq, Repr

/-- A time of a day, with the offset from universal time in seconds if it is
known. -/
structure Moment where
  date : Date
  hour : Nat
  minute : Nat
  second : Nat
  microsecond : Nat
  offset : Option Int
deriving DecidableEq, Repr

/-- The fields of a date or time that is none. -/
inductive Fault where
  | year (value : Nat)
  | month
  | day
  | hour
  | minute
  | second
  | offset (seconds : Int)
deriving DecidableEq, Repr

/-- Whether February has a twenty-ninth day. -/
def isLeapYear (year : Nat) : Bool :=
  decide (year % 4 = 0) && (decide (year % 100 ≠ 0) || decide (year % 400 = 0))

/-- The number of days of a month. -/
def daysInMonth (year month : Nat) : Nat :=
  if month = 2 then (if isLeapYear year then 29 else 28)
  else if month = 4 ∨ month = 6 ∨ month = 9 ∨ month = 11 then 30
  else 31

/-- The first field of a date that is out of range. -/
def Date.fault? (date : Date) : Option Fault :=
  if date.year < 1 ∨ 9999 < date.year then some (.year date.year)
  else if date.month < 1 ∨ 12 < date.month then some .month
  else if date.day < 1 ∨ daysInMonth date.year date.month < date.day then some .day
  else none

/-- The first field of a moment that is out of range. -/
def Moment.fault? (moment : Moment) : Option Fault :=
  match moment.date.fault? with
  | some fault => some fault
  | none =>
    if 23 < moment.hour then some .hour
    else if 59 < moment.minute then some .minute
    else if 59 < moment.second then some .second
    else none

/-- An offset is less than a day in either direction. -/
def offsetFault? (seconds : Int) : Option Fault :=
  if seconds.natAbs < 86400 then none else some (.offset seconds)

/-- The days before the first day of a year, counted from year 1. -/
def daysBeforeYear (year : Nat) : Nat :=
  let past := year - 1
  past * 365 + past / 4 - past / 100 + past / 400

/-- The days of the first so many months of a year. -/
def daysOfMonths (year : Nat) : Nat → Nat
  | 0 => 0
  | count + 1 => daysOfMonths year count + daysInMonth year (count + 1)

/-- The number of a day, counted from the first day of year 1. -/
def Date.dayNumber (date : Date) : Nat :=
  daysBeforeYear date.year + daysOfMonths date.year (date.month - 1) + (date.day - 1)

/-- The microseconds from the start of year 1, in universal time if the offset
is known. -/
def Moment.instant (moment : Moment) : Int :=
  let seconds : Int :=
    moment.date.dayNumber * 86400 + moment.hour * 3600 + moment.minute * 60 + moment.second
  (seconds - moment.offset.getD 0) * 1000000 + moment.microsecond

/-- Two moments are the same instant if both offsets are known or both are
not, and they are equally far from the start of year 1. -/
def Moment.sameInstant (first second : Moment) : Bool :=
  first.offset.isSome == second.offset.isSome && first.instant == second.instant

/-- A date as `2001-02-03`. -/
def Date.text (date : Date) : String :=
  natTextOfWidth 4 date.year ++ "-" ++ natTextOfWidth 2 date.month ++ "-" ++
    natTextOfWidth 2 date.day

/-- The time of day as `04:05:06`. -/
def Moment.clockText (moment : Moment) : String :=
  natTextOfWidth 2 moment.hour ++ ":" ++ natTextOfWidth 2 moment.minute ++ ":" ++
    natTextOfWidth 2 moment.second

/-- An offset as `+01:30`. -/
def offsetText (seconds : Int) : String :=
  let minutes := seconds.natAbs / 60
  (if seconds < 0 then "-" else "+") ++ natTextOfWidth 2 (minutes / 60) ++ ":" ++
    natTextOfWidth 2 (minutes % 60)

/-- A moment with `separator` between date and time. Microseconds are written
with six places unless there are none, and the offset follows if it is known. -/
def Moment.text (moment : Moment) (separator : String) : String :=
  let fraction :=
    if moment.microsecond = 0 then "" else "." ++ natTextOfWidth 6 moment.microsecond
  moment.date.text ++ separator ++ moment.clockText ++ fraction ++
    (moment.offset.map offsetText).getD ""

/-- A moment as the compact stamp `20010203_040506`. The year is not filled up. -/
def Moment.stamp (moment : Moment) : String :=
  natText moment.date.year ++ natTextOfWidth 2 moment.date.month ++
    natTextOfWidth 2 moment.date.day ++ "_" ++ natTextOfWidth 2 moment.hour ++
    natTextOfWidth 2 moment.minute ++ natTextOfWidth 2 moment.second

/-- A moment for readers, as `2001-02-03 04:05:06`. The year is not filled up. -/
def Moment.readable (moment : Moment) : String :=
  natText moment.date.year ++ "-" ++ natTextOfWidth 2 moment.date.month ++ "-" ++
    natTextOfWidth 2 moment.date.day ++ " " ++ moment.clockText

/-- A span of seconds, as whole days and the seconds beyond them. -/
def spanText (seconds : Int) : String :=
  let days := Int.fdiv seconds 86400
  let rest := Int.fmod seconds 86400
  let fields :=
    (if days = 0 then [] else ["days=" ++ intText days]) ++
      (if rest = 0 then [] else ["seconds=" ++ intText rest])
  "datetime.timedelta(" ++ (if fields.isEmpty then "0" else ", ".intercalate fields) ++ ")"

/-- The field list that shows a date. -/
def Date.shown (date : Date) : String :=
  "datetime.date(" ++ ", ".intercalate [natText date.year, natText date.month, natText date.day] ++
    ")"

/-- The field list that shows a moment: seconds and microseconds are left out
from the end while they are zero. -/
def Moment.shown (moment : Moment) : String :=
  let small :=
    if moment.microsecond ≠ 0 then [natText moment.second, natText moment.microsecond]
    else if moment.second ≠ 0 then [natText moment.second]
    else []
  let zone := match moment.offset with
    | none => []
    | some 0 => ["tzinfo=datetime.timezone.utc"]
    | some seconds => ["tzinfo=datetime.timezone(" ++ spanText seconds ++ ")"]
  "datetime.datetime(" ++
    ", ".intercalate
      ([natText moment.date.year, natText moment.date.month, natText moment.date.day,
        natText moment.hour, natText moment.minute] ++ small ++ zone) ++ ")"

/-- What is wrong with a field. -/
def Fault.message : Fault → String
  | .year value => "year " ++ natText value ++ " is out of range"
  | .month => "month must be in 1..12"
  | .day => "day is out of range for month"
  | .hour => "hour must be in 0..23"
  | .minute => "minute must be in 0..59"
  | .second => "second must be in 0..59"
  | .offset seconds =>
    "offset must be a timedelta strictly between -timedelta(hours=24) and timedelta(hours=24), " ++
      "not " ++ spanText seconds ++ "."

example : (Date.mk 2024 2 29).fault? = none := by decide
example : (Date.mk 2023 2 29).fault? = some .day := by decide
example : (Date.mk 2001 99 99).fault? = some .month := by decide

end CompilePolicy.Calendar

/-
# Dates and times

A date, a time of day, and both together with perhaps the distance from universal time.  Reports
show a moment to the second; data carries all of it.  Documents of tables may hold dates and times
too, and diagnostics show them in a form of their own.
-/
import Conformance.Number.Decimal
import Conformance.Text.Quoted

namespace Conformance

/-- A day of the calendar. -/
structure Date where
  /-- The year. -/
  year : Nat
  /-- The month, from one. -/
  month : Nat
  /-- The day, from one. -/
  day : Nat
  deriving DecidableEq, Repr, Inhabited

/-- A time of day. -/
structure TimeOfDay where
  /-- The hour. -/
  hour : Nat := 0
  /-- The minute. -/
  minute : Nat := 0
  /-- The second. -/
  second : Nat := 0
  /-- Millionths of a second. -/
  microsecond : Nat := 0
  deriving DecidableEq, Repr, Inhabited

/-- The distance from universal time. -/
structure ZoneOffset where
  /-- The distance in millionths of a second. -/
  microseconds : Int
  deriving DecidableEq, Repr, Inhabited

/-- A date with a time of day. -/
structure Moment where
  /-- The date. -/
  date : Date
  /-- The time of day. -/
  time : TimeOfDay := {}
  /-- The distance from universal time, if known. -/
  zone : Option ZoneOffset := none
  deriving DecidableEq, Repr, Inhabited

/-! ## Faults -/

/-- Why numbers or a text stand for no moment. -/
inductive CalendarFault where
  /-- The text has another form. -/
  | malformed (text : String)
  /-- There is no such year. -/
  | year (n : Nat)
  /-- There is no such month. -/
  | month
  /-- The month has no such day. -/
  | day
  /-- There is no such hour. -/
  | hour
  /-- There is no such minute. -/
  | minute
  /-- There is no such second. -/
  | second
  /-- The distance from universal time is a day or more. -/
  | offset (z : ZoneOffset)
  deriving DecidableEq, Repr, Inhabited

/-- A year with a day in February more. -/
def isLeapYear (year : Nat) : Bool :=
  year % 4 == 0 && (year % 100 != 0 || year % 400 == 0)

/-- The number of days of a month. -/
def daysInMonth (year month : Nat) : Nat :=
  if month == 2 then (if isLeapYear year then 29 else 28)
  else if [4, 6, 9, 11].contains month then 30
  else 31

/-- Refuses a date that the calendar does not have. -/
def Date.check (d : Date) : Except CalendarFault Unit :=
  if d.year < 1 || 9999 < d.year then .error (.year d.year)
  else if d.month < 1 || 12 < d.month then .error .month
  else if d.day < 1 || daysInMonth d.year d.month < d.day then .error .day
  else .ok ()

/-- Refuses a time that no day has. -/
def TimeOfDay.check (t : TimeOfDay) : Except CalendarFault Unit :=
  if 23 < t.hour then .error .hour
  else if 59 < t.minute then .error .minute
  else if 59 < t.second then .error .second
  else .ok ()

/-! ## Distances -/

namespace ZoneOffset

/-- The number of millionths in a second. -/
def perSecond : Nat := 1000000

/-- The number of millionths in a day. -/
def perDay : Nat := 86400 * perSecond

/-- A distance that is shown as days, seconds and millionths, of which only days may be below
zero. -/
def constructed (z : ZoneOffset) : String :=
  let days := Int.fdiv z.microseconds perDay
  let rest := (Int.fmod z.microseconds perDay).toNat
  let parts := [("days", days), ("seconds", (rest / perSecond : Nat)),
    ("microseconds", (rest % perSecond : Nat))].filter (·.2 != 0)
  "datetime.timedelta(" ++
    (if parts.isEmpty then "0"
     else ", ".intercalate (parts.map fun (k, n) => k ++ "=" ++ intText n)) ++ ")"

/-- Refuses a distance of a day or more. -/
def check (z : ZoneOffset) : Except CalendarFault Unit :=
  if z.microseconds.natAbs < perDay then .ok () else .error (.offset z)

end ZoneOffset

/-- The wording of a fault. -/
def CalendarFault.message : CalendarFault → String
  | .malformed text => "Invalid isoformat string: " ++ Text.quoted text
  | .year n => "year " ++ intText n ++ " is out of range"
  | .month => "month must be in 1..12"
  | .day => "day is out of range for month"
  | .hour => "hour must be in 0..23"
  | .minute => "minute must be in 0..59"
  | .second => "second must be in 0..59"
  | .offset z =>
    "offset must be a timedelta strictly between -timedelta(hours=24) and " ++
      "timedelta(hours=24), not " ++ z.constructed ++ "."

/-! ## Text -/

/-- A number written with at least the given number of digits. -/
def padded (width n : Nat) : String :=
  let digits := Nat.toDigits 10 n
  String.ofList (List.replicate (width - digits.length) '0' ++ digits)

/-- The two-digit numbers of a list with colons between them. -/
def clock (parts : List Nat) : String :=
  ":".intercalate (parts.map (padded 2))

/-- A point and six digits, unless there is nothing to show. -/
def fractionText (microsecond : Nat) : String :=
  if microsecond == 0 then "" else "." ++ padded 6 microsecond

/-- Sign, hours and minutes of a distance; seconds and their fraction only if there are any. -/
def ZoneOffset.text (z : ZoneOffset) : String :=
  let n := z.microseconds.natAbs
  let seconds := n / perSecond
  let parts := [seconds / 3600, seconds / 60 % 60]
  let fine := n % (60 * perSecond) != 0
  (if z.microseconds < 0 then "-" else "+") ++
    clock (if fine then parts ++ [seconds % 60] else parts) ++ fractionText (n % perSecond)

/-- Year, month and day with hyphens between them. -/
def Date.text (d : Date) : String :=
  padded 4 d.year ++ "-" ++ padded 2 d.month ++ "-" ++ padded 2 d.day

/-- The time to the second, and a fraction if there is one. -/
def TimeOfDay.text (t : TimeOfDay) : String :=
  clock [t.hour, t.minute, t.second] ++ fractionText t.microsecond

namespace Moment

/-- Date and time to the second, with a blank between them; the year has as many digits as it
needs. -/
def shown (m : Moment) : String :=
  "-".intercalate [intText m.date.year, padded 2 m.date.month, padded 2 m.date.day] ++ " " ++
    clock [m.time.hour, m.time.minute, m.time.second]

/-- All of the moment, with a separator between date and time. -/
def textWith (m : Moment) (separator : String) : String :=
  m.date.text ++ separator ++ m.time.text ++ ((m.zone.map ZoneOffset.text).getD "")

/-- All of the moment, for data. -/
def iso (m : Moment) : String :=
  m.textWith "T"

end Moment

/-! ## Dates and times as values -/

/-- A date, a time or both. -/
inductive CalendarValue where
  /-- A date. -/
  | date (d : Date)
  /-- A time of day. -/
  | time (t : TimeOfDay)
  /-- A date with a time of day. -/
  | moment (m : Moment)
  deriving DecidableEq, Repr, Inhabited

namespace CalendarValue

/-- The name of a value's type. -/
def typeName : CalendarValue → String
  | .date _ => "date"
  | .time _ => "time"
  | .moment _ => "datetime"

/-- A value as it is shown on its own. -/
def text : CalendarValue → String
  | .date d => d.text
  | .time t => t.text
  | .moment m => m.textWith " "

/-- The numbers of a time as far as they are needed: hour and minute always. -/
def timeNumbers (t : TimeOfDay) : List Nat :=
  [t.hour, t.minute] ++
    (if t.microsecond != 0 then [t.second, t.microsecond]
     else if t.second != 0 then [t.second] else [])

/-- The distance from universal time, as an argument. -/
def zoneArgument (z : ZoneOffset) : String :=
  "tzinfo=datetime.timezone" ++
    (if z.microseconds == 0 then ".utc" else "(" ++ z.constructed ++ ")")

/-- A value as it is shown inside a list or a table. -/
def constructed (v : CalendarValue) : String :=
  let numbers (ns : List Nat) : List String := ns.map fun (n : Nat) => intText n
  let arguments := match v with
    | .date d => numbers [d.year, d.month, d.day]
    | .time t => numbers (timeNumbers t)
    | .moment m =>
      numbers ([m.date.year, m.date.month, m.date.day] ++ timeNumbers m.time) ++
        (m.zone.map zoneArgument).toList
  "datetime." ++ v.typeName ++ "(" ++ ", ".intercalate arguments ++ ")"

end CalendarValue
end Conformance

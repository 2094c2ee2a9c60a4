/-
# Reading moments

A moment is written as a date, any one character, and a time of day, perhaps with the distance from
universal time.  A date has a year, then month and day or week and day of the week; hyphens stand
between its parts or nowhere.  A time has hours, minutes, seconds and a fraction, of which the last
parts may be missing; colons stand between its parts or nowhere.
-/
import Conformance.Calendar.Moment

namespace Conformance.Iso

/-- A number of exactly the given number of digits, and the rest. -/
def takeNumber (width : Nat) (cs : List Char) : Option (Nat × List Char) :=
  let digits := cs.take width
  if digits.length == width && digits.all Char.isDigit then
    some (digits.foldl (fun n c => 10 * n + (c.toNat - '0'.toNat)) 0, cs.drop width)
  else none

/-! ## Dates -/

/-- The number of days before a year. -/
def daysBefore (year : Nat) : Nat :=
  let y := year - 1
  365 * y + y / 4 - y / 100 + y / 400

/-- The date of a day of a year, from one on; days beyond the year run on into the next one. -/
def dateInYear (year : Nat) : (months : List Nat) → (day : Nat) → Date
  | [], day => ⟨year + 1, 1, day⟩
  | month :: months, day =>
    let length := daysInMonth year month
    if day ≤ length then ⟨year, month, day⟩ else dateInYear year months (day - length)

/-- The months of a year. -/
def months : List Nat :=
  [1, 2, 3, 4, 5, 6, 7, 8, 9, 10, 11, 12]

/-- Whether a year has 53 weeks: it starts on a Thursday, or on a Wednesday and has a day more. -/
def isLongYear (year : Nat) : Bool :=
  let first := (daysBefore year + 1) % 7
  first == 4 || (first == 3 && isLeapYear year)

/-- The date of a day of a week.  The first week of a year is the one with its first Thursday.
Weeks of a year zero lie in no month. -/
def ofWeek? (year week day : Nat) : Option Date :=
  let weekFits := 0 < week && (week < 53 || (week == 53 && isLongYear year))
  if !weekFits || day < 1 || 7 < day then none
  else if year == 0 then some ⟨1, 0, 1⟩
  else
    let firstWeekday := (daysBefore year + 6 + 1) % 7
    -- Days from the first of January to the Monday of the first week, plus seven.
    let monday := if firstWeekday ≤ 3 then 7 - firstWeekday else 14 - firstWeekday
    let place := monday + 7 * (week - 1) + day
    if 7 < place then some (dateInYear year months (place - 7))
    else
      let lastYear := year - 1
      let length := if isLeapYear lastYear then 366 else 365
      some (dateInYear lastYear months (length + place - 7))

/-- Takes a hyphen where one is needed. -/
def takeHyphen (needed : Bool) : List Char → Option (List Char)
  | '-' :: cs => if needed then some cs else some ('-' :: cs)
  | cs => if needed then none else some cs

/-- Reads a date from its characters. -/
def readDate? (cs : List Char) : Option Date := do
  let (year, cs) ← takeNumber 4 cs
  let hyphens := cs.head? == some '-'
  let cs ← takeHyphen hyphens cs
  match cs with
  | 'W' :: cs =>
    let (week, cs) ← takeNumber 2 cs
    if cs.isEmpty then ofWeek? year week 1
    else
      let (day, _) ← takeNumber 1 (← takeHyphen hyphens cs)
      ofWeek? year week day
  | cs =>
    let (month, cs) ← takeNumber 2 cs
    let (day, _) ← takeNumber 2 (← takeHyphen hyphens cs)
    return ⟨year, month, day⟩

/-- The number of characters of the date at the start of a text.  A week with or without a day is
told apart by what follows, since parts of times have two digits. -/
def dateLength (cs : List Char) : Nat :=
  let at? (n : Nat) := cs[n]?
  let isDigitAt (n : Nat) := ((at? n).map Char.isDigit).getD false
  if cs.length == 7 then 7
  else if at? 4 == some '-' then
    if at? 5 == some 'W' then
      if at? 8 == some '-' then (if isDigitAt 10 then 8 else 10) else 8
    else 10
  else if at? 4 == some 'W' then
    let stop := 7 + ((cs.drop 7).takeWhile Char.isDigit).length
    if stop < 9 then stop else if stop % 2 == 0 then 7 else 8
  else 8

/-! ## Times -/

/-- What reading a time gives: its parts, and whether characters are left. -/
structure ClockReading where
  /-- Hours, minutes, seconds. -/
  parts : List Nat
  /-- Millionths of a second. -/
  microsecond : Nat
  /-- Whether characters are left. -/
  more : Bool

/-- Reads a fraction of up to six digits of the `room` characters before the end of the time;
further digits are passed over. -/
def readFraction (parts : List Nat) (room : Nat) (cs : List Char) : Option ClockReading := do
  let width := min room 6
  let (n, rest) ← takeNumber width cs
  some ⟨parts, n * Nat.pow 10 (6 - width), !(rest.dropWhile Char.isDigit).isEmpty⟩

/-- Reads the parts of a time: `left` more of them at most, with `room` characters before the end of
the time.  `colons` tells whether colons stand between the parts, once it is known. -/
def readParts : (left : Nat) → (colons : Option Bool) → (parts : List Nat) → (room : Nat) →
    List Char → Option ClockReading
  | 0, _, parts, room, cs => readFraction parts room cs
  | left + 1, colons, parts, room, cs => do
    let (n, cs) ← takeNumber 2 cs
    let parts := parts ++ [n]
    let colons := colons.getD (cs.head? == some ':')
    if room ≤ 3 then return ⟨parts, 0, !cs.isEmpty⟩
    match cs with
    | ':' :: rest =>
      if colons then readParts left (some true) parts (room - 3) rest else none
    | '.' :: rest => readFraction parts (room - 3) rest
    | ',' :: rest => readFraction parts (room - 3) rest
    | cs => if colons then none else readParts left (some false) parts (room - 2) cs

/-- Reads a time whose end is known. -/
def readClock (room : Nat) (cs : List Char) : Option ClockReading :=
  readParts 3 none [] room cs

/-- The time of day of a reading. -/
def ClockReading.time (r : ClockReading) : TimeOfDay :=
  ⟨r.parts.getD 0 0, r.parts.getD 1 0, r.parts.getD 2 0, r.microsecond⟩

/-- Whether a character starts the distance from universal time. -/
def startsZone (c : Char) : Bool :=
  c == '+' || c == '-' || c == 'Z'

/-- Reads a distance from universal time.  A distance of less than a second is none. -/
def readZone? : List Char → Option ZoneOffset
  | ['Z'] => some ⟨0⟩
  | sign :: cs => do
    if sign == 'Z' then none
    let r ← readClock cs.length cs
    if r.more then none
    let t := r.time
    let seconds := 3600 * t.hour + 60 * t.minute + t.second
    let n : Int := if seconds == 0 then 0 else ZoneOffset.perSecond * seconds + t.microsecond
    some ⟨if sign == '-' then -n else n⟩
  | [] => none

/-- Reads a time of day with the distance from universal time, if there is one. -/
def readTime? (cs : List Char) : Option (TimeOfDay × Option ZoneOffset) := do
  let room := (cs.takeWhile (!startsZone ·)).length
  let r ← readClock room cs
  match cs.drop room with
  | [] => if r.more then none else some (r.time, none)
  | zone => some (r.time, some (← readZone? zone))

/-- The bytes of a text, each as a character: all widths are counted in bytes. -/
def bytewise (text : String) : List Char :=
  text.toUTF8.toList.map fun b => Char.ofNat b.toNat

/-- The number of bytes of the character that starts with a byte. -/
def widthFrom (c : Char) : Nat :=
  if c.toNat < 128 then 1 else if c.toNat < 224 then 2 else if c.toNat < 240 then 3 else 4

/-- Reads a date, and a time after any one character if there is more. -/
def readParts? (cs : List Char) : Option Moment := do
  let length := dateLength cs
  let date ← readDate? (cs.take length)
  match cs.drop length with
  | [] => some ⟨date, {}, none⟩
  | separator :: time =>
    let (t, zone) ← readTime? (time.drop (widthFrom separator - 1))
    some ⟨date, t, zone⟩

/-- Reads a moment. -/
def read (text : String) : Except CalendarFault Moment :=
  match readParts? (bytewise text) with
  | none => .error (.malformed text)
  | some m => do
    match m.zone with
    | some z => z.check
    | none => pure ()
    m.date.check
    m.time.check
    return m

end Conformance.Iso

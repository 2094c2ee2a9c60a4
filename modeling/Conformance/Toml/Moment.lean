/-
# Dates and times of a document

A date has four, two and two digits with hyphens between them; a time has two digits three times
with colons between them, and perhaps a fraction.  A date may be followed by a time after a letter
`T` or a blank, and then by the distance from universal time.  Numbers beyond their range end the
reading before them, so that what is left is refused by whoever reads on; only a day that its month
does not have is refused here.
-/
import Conformance.Calendar.Iso
import Conformance.Toml.Fault

namespace Conformance.Toml

/-- Two digits for a number between two bounds, and the rest. -/
def takeTwo (low high : Nat) (cs : List Char) : Option (Nat × List Char) :=
  (Iso.takeNumber 2 cs).filter fun (n, _) => low ≤ n && n ≤ high

/-- Passes over one given character. -/
def takeMark (mark : Char) : List Char → Option (List Char)
  | c :: cs => if c == mark then some cs else none
  | [] => none

/-- Takes the date at the start. -/
def takeDate? (cs : List Char) : Option (Date × List Char) := do
  let (year, cs) ← Iso.takeNumber 4 cs
  let (month, cs) ← takeTwo 1 12 (← takeMark '-' cs)
  let (day, cs) ← takeTwo 1 31 (← takeMark '-' cs)
  return (⟨year, month, day⟩, cs)

/-- Takes a point and digits, if they come next, as millionths; digits beyond the sixth are passed
over. -/
def takeMillionths : List Char → Nat × List Char
  | '.' :: cs =>
    match cs.span Char.isDigit with
    | ([], _) => (0, '.' :: cs)
    | (digits, rest) =>
      let six := (digits ++ List.replicate 6 '0').take 6
      (((Iso.takeNumber 6 six).map (·.1)).getD 0, rest)
  | cs => (0, cs)

/-- Takes the time of day at the start. -/
def takeTime? (cs : List Char) : Option (TimeOfDay × List Char) := do
  let (hour, cs) ← takeTwo 0 23 cs
  let (minute, cs) ← takeTwo 0 59 (← takeMark ':' cs)
  let (second, cs) ← takeTwo 0 59 (← takeMark ':' cs)
  let (microsecond, cs) := takeMillionths cs
  return (⟨hour, minute, second, microsecond⟩, cs)

/-- Takes the distance from universal time at the start. -/
def takeZone? : List Char → Option (ZoneOffset × List Char)
  | c :: cs =>
    if c == 'Z' || c == 'z' then some (⟨0⟩, cs)
    else if c == '+' || c == '-' then do
      let (hours, cs) ← takeTwo 0 23 cs
      let (minutes, cs) ← takeTwo 0 59 (← takeMark ':' cs)
      let n : Int := ZoneOffset.perSecond * (3600 * hours + 60 * minutes)
      return (⟨if c == '-' then -n else n⟩, cs)
    else none
  | [] => none

/-- Takes the time of day after a date, and the distance from universal time after it. -/
def takeTimeAfter? : List Char → Option ((TimeOfDay × Option ZoneOffset) × List Char)
  | c :: cs =>
    if c == 'T' || c == 't' || c == ' ' then do
      let (time, cs) ← takeTime? cs
      match takeZone? cs with
      | some (zone, cs) => return ((time, some zone), cs)
      | none => return ((time, none), cs)
    else none
  | [] => none

/-- Takes a date, a time, or both, if one starts here. -/
def readCalendar? (cs : List Char) : Option (Except Cause (CalendarValue × List Char)) :=
  match takeDate? cs with
  | some (date, rest) =>
    let reading := match takeTimeAfter? rest with
      | some ((time, zone), rest) => (.moment ⟨date, time, zone⟩, rest)
      | none => (.date date, rest)
    some ((date.check.map fun _ => reading).mapError fun _ => .badDate)
  | none => (takeTime? cs).map fun (time, rest) => .ok (.time time, rest)

end Conformance.Toml

import TableTalk.Double.Shortest

/-!
# Dates and times

A `Date` is a day of the proleptic Gregorian calendar, a `Moment` a date with a time of day to the
microsecond and perhaps the distance of its clock from Greenwich. `dayNumber` counts days from the
first day of the year 1, and `ofDayNumber` undoes it.
-/

namespace TableTalk

open Double (padZeros)

structure Date where
  year : Nat
  month : Nat
  day : Nat
  deriving DecidableEq, Repr, Inhabited

structure Moment where
  date : Date
  hour : Nat
  minute : Nat
  second : Nat
  micro : Nat
  /-- Microseconds by which the clock is ahead of Greenwich. -/
  offset : Option Int
  deriving DecidableEq, Repr, Inhabited

namespace Date

def isLeap (year : Nat) : Bool :=
  year % 4 == 0 && (year % 100 != 0 || year % 400 == 0)

def daysInMonth (year month : Nat) : Nat :=
  if month = 2 then (if isLeap year then 29 else 28)
  else if month = 4 ∨ month = 6 ∨ month = 9 ∨ month = 11 then 30
  else 31

/-- A day that the calendar has, in a year from 1 to 9999. -/
def isValid (d : Date) : Bool :=
  1 ≤ d.year && d.year ≤ 9999 && 1 ≤ d.month && d.month ≤ 12 && 1 ≤ d.day
    && d.day ≤ daysInMonth d.year d.month

def daysBeforeYear (year : Nat) : Nat :=
  let y := year - 1
  y * 365 + y / 4 - y / 100 + y / 400

def daysBeforeMonth (year month : Nat) : Nat :=
  (List.range (month - 1)).foldl (fun n m => n + daysInMonth year (m + 1)) 0

/-- The number of the day, the first of January of the year 1 being 1. -/
def dayNumber (d : Date) : Nat :=
  daysBeforeYear d.year + daysBeforeMonth d.year d.month + d.day

/-- Whole years from 1 on that end before day number `n`, found upwards from an estimate. -/
def yearOf (n : Nat) : Nat :=
  let estimate := (n - 1) / 366 + 1
  (List.range 30).foldl
    (fun y _ => if daysBeforeYear (y + 1) < n then y + 1 else y) estimate

def ofDayNumber (n : Nat) : Date :=
  let year := yearOf n
  let inYear := n - daysBeforeYear year
  let month := (List.range 11).foldl
    (fun m _ => if daysBeforeMonth year (m + 1) < inYear then m + 1 else m) 1
  ⟨year, month, inYear - daysBeforeMonth year month⟩

def text (d : Date) : String :=
  padZeros 4 (toString d.year) ++ "-" ++ padZeros 2 (toString d.month) ++ "-"
    ++ padZeros 2 (toString d.day)

end Date

namespace Moment

def microsPerSecond : Nat := 1000000

def microsPerDay : Nat := 86400 * microsPerSecond

/-- Microseconds since the start of the day. -/
def microsOfDay (m : Moment) : Nat :=
  ((m.hour * 60 + m.minute) * 60 + m.second) * microsPerSecond + m.micro

/-- The moment so many microseconds after the start of the year 1, on a clock with an offset. -/
def ofMicros (micros : Nat) (offset : Option Int) : Moment :=
  let ofDay := micros % microsPerDay
  let seconds := ofDay / microsPerSecond
  ⟨Date.ofDayNumber (micros / microsPerDay + 1), seconds / 3600, seconds / 60 % 60, seconds % 60,
    ofDay % microsPerSecond, offset⟩

/-- Microseconds since the start of the year 1. -/
def toMicros (m : Moment) : Nat :=
  (m.date.dayNumber - 1) * microsPerDay + m.microsOfDay

def two (n : Nat) : String := padZeros 2 (toString n)

/-- The distance of a clock from Greenwich, with seconds and microseconds only where needed. -/
def offsetText (offset : Int) : String :=
  let total := offset.natAbs
  let seconds := total / microsPerSecond
  let micro := total % microsPerSecond
  (if offset < 0 then "-" else "+") ++ two (seconds / 3600) ++ ":" ++ two (seconds / 60 % 60)
    ++ (if seconds % 60 = 0 ∧ micro = 0 then "" else ":" ++ two (seconds % 60))
    ++ (if micro = 0 then "" else "." ++ padZeros 6 (toString micro))

def text (m : Moment) : String :=
  m.date.text ++ " " ++ two m.hour ++ ":" ++ two m.minute ++ ":" ++ two m.second
    ++ (if m.micro = 0 then "" else "." ++ padZeros 6 (toString m.micro))
    ++ ((m.offset.map offsetText).getD "")

/-- Date and time to the millisecond, for a clock at Greenwich. -/
def stamp (m : Moment) : String :=
  m.date.text ++ "T" ++ two m.hour ++ ":" ++ two m.minute ++ ":" ++ two m.second ++ "."
    ++ padZeros 3 (toString (m.micro / 1000)) ++ "Z"

end Moment

end TableTalk

import TableTalk.Calendar.Basic
import TableTalk.Text.Digit

/-!
# Reading dates and times

`Moment.ofIso?` reads a moment in the international notation: a date by month and day or by week and
day, with or without dashes, and perhaps one character of any kind and a time of day. A time has up
to three fields of two digits, with or without colons, a fraction of a second and the distance of
the clock from Greenwich. In front of such a distance the reading of the time stops at the first
character that does not fit; without one the time has to end with the text.
-/

namespace TableTalk

/-- The number written in the first `count` characters, which must be digits, and what follows. -/
def takeNumber? (count : Nat) (cs : List Char) : Option (Nat × List Char) :=
  let digits := cs.take count
  if digits.length = count ∧ digits.all Char.isDigit then
    some (Text.numeral digits, cs.drop count)
  else none

namespace Date

/-- The day of the week, Monday being zero. -/
def weekday (d : Date) : Nat :=
  (d.dayNumber + 6) % 7

/-- The number of the Monday that starts week one of a year, the week with the first Thursday. -/
def firstMonday (year : Nat) : Nat :=
  let newYear : Date := ⟨year, 1, 1⟩
  let monday := newYear.dayNumber - newYear.weekday
  if newYear.weekday ≤ 3 then monday else monday + 7

def weeksIn (year : Nat) : Nat :=
  let start := (⟨year, 1, 1⟩ : Date).weekday
  if start = 3 ∨ (start = 2 ∧ isLeap year) then 53 else 52

def ofWeek? (year week day : Nat) : Option Date :=
  if 1 ≤ year ∧ 1 ≤ week ∧ week ≤ weeksIn year ∧ 1 ≤ day ∧ day ≤ 7 then
    some (ofDayNumber (firstMonday year + (week - 1) * 7 + (day - 1)))
  else none

/-- The number of characters that the date at the front of a text takes. Where a week may be
followed by a day or by a time, as many digits go to the time as make pairs. -/
def isoLength (cs : List Char) : Nat :=
  if cs.length = 7 then 7
  else
    match cs.drop 4 with
    | '-' :: 'W' :: _ =>
      if cs[8]? = some '-' ∧ ((cs[10]?).map Char.isDigit).getD false = false then 10 else 8
    | '-' :: _ => 10
    | 'W' :: _ =>
      let last := 7 + ((cs.drop 7).takeWhile Char.isDigit).length
      if last < 9 then last else if last % 2 = 0 then 7 else 8
    | _ => 8

/-- The day of a week whose number the text ends in, Monday if it is empty. -/
def weekEnd? (year week : Nat) : List Char → Option Date
  | [] => ofWeek? year week 1
  | cs =>
    match takeNumber? 1 cs with
    | some (day, []) => ofWeek? year week day
    | _ => none

/-- Reads a date that takes up the whole text. -/
def ofIsoChars? (cs : List Char) : Option Date := do
  let (year, rest) ← takeNumber? 4 cs
  match rest with
  | '-' :: 'W' :: rest =>
    let (week, rest) ← takeNumber? 2 rest
    match rest with
    | [] => weekEnd? year week []
    | ['-', day] => weekEnd? year week [day]
    | _ => none
  | 'W' :: rest =>
    let (week, rest) ← takeNumber? 2 rest
    weekEnd? year week rest
  | '-' :: rest =>
    let (month, rest) ← takeNumber? 2 rest
    match rest with
    | '-' :: rest =>
      let (day, rest) ← takeNumber? 2 rest
      if rest = [] then some ⟨year, month, day⟩ else none
    | _ => none
  | rest =>
    let (month, rest) ← takeNumber? 2 rest
    let (day, rest) ← takeNumber? 2 rest
    if rest = [] then some ⟨year, month, day⟩ else none

end Date

structure Clock where
  hour : Nat
  minute : Nat
  second : Nat
  micro : Nat
  deriving DecidableEq, Repr

namespace Clock

def ofFields (fields : List Nat) (micro : Nat) : Clock :=
  ⟨fields.getD 0 0, fields.getD 1 0, fields.getD 2 0, micro⟩

/-- A fraction of a second in microseconds, and what follows it; digits beyond the sixth are passed
over. -/
def takeFraction? (cs : List Char) : Option (Nat × List Char) := do
  let count := min 6 cs.length
  let (n, rest) ← takeNumber? count cs
  return (n * Nat.pow 10 (6 - count), rest.dropWhile Char.isDigit)

/-- Reads the fields of a time that are still to come, of which there are at most `fields + 1`, and
what is left. `colons` tells whether colons stand between them, once that is known. -/
def takeFields? (colons : Option Bool) (done : List Nat) :
    (fields : Nat) → (cs : List Char) → Option (Clock × List Char)
  | fields, cs => do
    let (n, rest) ← takeNumber? 2 cs
    let done := done ++ [n]
    match rest with
    | [] => return (ofFields done 0, [])
    | [c] => if c.toNat < 128 then return (ofFields done 0, [c]) else none
    | c :: more =>
      let colons := colons.getD (c = ':')
      let onward : Option (List Char) :=
        if colons ∧ c = ':' then some more else if colons then none else some rest
      if c = '.' ∨ c = ',' then fraction done more
      else
        match fields with
        | 0 => fraction done (← onward)
        | fields + 1 => takeFields? (some colons) done fields (← onward)
where
  fraction (done : List Nat) (cs : List Char) : Option (Clock × List Char) := do
    let (micro, rest) ← takeFraction? cs
    return (ofFields done micro, rest)

def isValid (c : Clock) : Bool :=
  c.hour < 24 && c.minute < 60 && c.second < 60

/-- Microseconds, with zero for less than a whole second. -/
def offsetMicros (c : Clock) : Nat :=
  let seconds := (c.hour * 60 + c.minute) * 60 + c.second
  if seconds = 0 then 0 else seconds * Moment.microsPerSecond + c.micro

/-- Reads a time of day and the distance of its clock from Greenwich. -/
def ofIsoChars? (cs : List Char) : Option (Clock × Option Int) := do
  let isSign (c : Char) := c = '+' || c = '-' || c = 'Z'
  let (clock, left) ← takeFields? none [] 2 (cs.takeWhile fun c => !isSign c)
  match cs.dropWhile fun c => !isSign c with
  | [] => if left = [] then some (clock, none) else none
  | ['Z'] => some (clock, some 0)
  | 'Z' :: _ => none
  | sign :: rest =>
    let (distance, left) ← takeFields? none [] 2 rest
    let micros := distance.offsetMicros
    if left = [] ∧ micros < Moment.microsPerDay then
      some (clock, some (if sign = '-' then -(micros : Int) else micros))
    else none

end Clock

def Moment.ofIso? (s : String) : Option Moment := do
  let cs := s.toList
  let length := Date.isoLength cs
  let date ← Date.ofIsoChars? (cs.take length)
  let (clock, offset) ←
    match cs.drop length with
    | [] => some (⟨0, 0, 0, 0⟩, none)
    | _ :: time => Clock.ofIsoChars? time
  if date.isValid && clock.isValid then
    some ⟨date, clock.hour, clock.minute, clock.second, clock.micro, offset⟩
  else none

end TableTalk

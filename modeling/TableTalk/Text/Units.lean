/-!
# Code units

Text in units of 16 or 32 bits, in either order of their bytes. A unit of 32 bits is a code point; a
code point beyond 16 bits makes two units of 16 bits, a high surrogate and a low one. `joinUnits`
makes characters of any row of units, with U+FFFD for a surrogate that stands alone.
-/

namespace TableTalk.Text

/-- The order of the bytes in a unit: the low one or the high one first. -/
inductive ByteOrder where
  | little
  | big
  deriving DecidableEq, Repr

def isHighSurrogate (u : Nat) : Bool :=
  0xD800 ≤ u && u < 0xDC00

def isLowSurrogate (u : Nat) : Bool :=
  0xDC00 ≤ u && u < 0xE000

/-- The code point of a high and a low surrogate. -/
def joinSurrogates (high low : Nat) : Nat :=
  0x10000 + (high - 0xD800) * 0x400 + (low - 0xDC00)

/-- The character of a code point, U+FFFD where there is none. -/
def charOf (n : Nat) : Char :=
  if n.isValidChar then Char.ofNat n else '\uFFFD'

/-- The characters of a row of code units; a high and a low surrogate make one character, and a
surrogate alone is the replacement character. -/
def joinUnits : List Nat → List Char
  | [] => []
  | [u] => [charOf u]
  | u :: v :: rest =>
    if isHighSurrogate u && isLowSurrogate v then charOf (joinSurrogates u v) :: joinUnits rest
    else charOf u :: joinUnits (v :: rest)

/-- The number that a row of bytes stands for. -/
def ByteOrder.number : ByteOrder → List Nat → Nat
  | little, bytes => bytes.foldr (fun b n => n * 256 + b) 0
  | big, bytes => bytes.foldl (fun n b => n * 256 + b) 0

/-- The units of two bytes each, and the bytes that are left over. -/
def shortUnits (order : ByteOrder) : List Nat → List Nat × List Nat
  | a :: b :: rest =>
    let (units, left) := shortUnits order rest
    (order.number [a, b] :: units, left)
  | left => ([], left)

/-- The units of four bytes each, and the bytes that are left over. -/
def longUnits (order : ByteOrder) : List Nat → List Nat × List Nat
  | a :: b :: c :: d :: rest =>
    let (units, left) := longUnits order rest
    (order.number [a, b, c, d] :: units, left)
  | left => ([], left)

end TableTalk.Text

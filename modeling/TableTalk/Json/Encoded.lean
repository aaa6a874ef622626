import TableTalk.Json.Reader
import TableTalk.Text.Utf8

/-!
# Encoded JSON

JSON in bytes is UTF-8, UTF-16 or UTF-32. A mark in front tells which; without one the zeros among
the first bytes do, since JSON starts with an ASCII character. Surrogates that stand alone are let
pass as U+FFFD, while other faults make the whole unreadable.
-/

namespace TableTalk.Json

open Text

/-- The form that JSON is encoded in. -/
inductive Form where
  | utf8
  | utf16 (order : ByteOrder)
  | utf32 (order : ByteOrder)
  deriving DecidableEq, Repr

/-- The marks of the forms. One that starts with another stands before it. -/
def marks : List (List UInt8 × Form) :=
  [([0, 0, 0xFE, 0xFF], .utf32 .big), ([0xFF, 0xFE, 0, 0], .utf32 .little),
    ([0xFE, 0xFF], .utf16 .big), ([0xFF, 0xFE], .utf16 .little), ([0xEF, 0xBB, 0xBF], .utf8)]

/-- The form of bytes without a mark, told by which of them are zero. -/
def formOfZeros : List Bool → Form
  | true :: second :: _ :: _ :: _ => if second then .utf32 .big else .utf16 .big
  | _ :: true :: third :: fourth :: _ => if third && fourth then .utf32 .little else .utf16 .little
  | [true, _] => .utf16 .big
  | [_, true] => .utf16 .little
  | _ => .utf8

/-- The form that the first bytes tell, and the bytes behind the mark. -/
def formOf (bytes : List UInt8) : Form × List UInt8 :=
  match marks.find? fun mark => mark.1.isPrefixOf bytes with
  | some (mark, form) => (form, bytes.drop mark.length)
  | none => (formOfZeros (bytes.map (· == 0)), bytes)

/-- The bytes with U+FFFD in place of every surrogate that is encoded like a character. -/
def replaceSurrogates : List UInt8 → List UInt8
  | 0xED :: b :: c :: rest =>
    if 0xA0 ≤ b ∧ b ≤ 0xBF ∧ 0x80 ≤ c ∧ c ≤ 0xBF then 0xEF :: 0xBF :: 0xBD :: replaceSurrogates rest
    else 0xED :: replaceSurrogates (b :: c :: rest)
  | b :: rest => b :: replaceSurrogates rest
  | [] => []

def decode? (bytes : List UInt8) : Option (List Char) :=
  let (form, bytes) := formOf bytes
  match form with
  | .utf8 => decodeUtf8? (replaceSurrogates bytes)
  | .utf16 order =>
    let (units, left) := shortUnits order (bytes.map UInt8.toNat)
    if left.isEmpty then some (joinUnits units) else none
  | .utf32 order =>
    let (units, left) := longUnits order (bytes.map UInt8.toNat)
    if left.isEmpty && units.all (· ≤ 0x10FFFF) then some (units.map charOf) else none

end TableTalk.Json

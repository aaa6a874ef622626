import TableTalk.Charset.Reading
import TableTalk.Text.Units

/-!
# UTF-7

ASCII characters stand for themselves, all but `+`, which opens a section in base 64: digits of six
bits that make up units of 16 bits. The section ends in front of the first byte that is no digit; a
`-` there belongs to it. `+-` is the plus sign.
-/

namespace TableTalk.Charset.Utf7

open Text

def value? (b : Nat) : Option Nat :=
  if 'A'.toNat ≤ b ∧ b ≤ 'Z'.toNat then some (b - 'A'.toNat)
  else if 'a'.toNat ≤ b ∧ b ≤ 'z'.toNat then some (b - 'a'.toNat + 26)
  else if '0'.toNat ≤ b ∧ b ≤ '9'.toNat then some (b - '0'.toNat + 52)
  else if b = '+'.toNat then some 62
  else if b = '/'.toNat then some 63
  else none

/-- An open section: the bits that are not yet a unit, their number, and a high surrogate that waits
for a low one. -/
structure Section where
  bits : Nat
  count : Nat
  high : Option Nat

namespace Section

def empty : Section := ⟨0, 0, none⟩

def take (s : Section) (u : Nat) : Section × List Char :=
  match s.high with
  | some high =>
    if isLowSurrogate u then ({ s with high := none }, [charOf (joinSurrogates high u)])
    else if isHighSurrogate u then ({ s with high := some u }, ['\uFFFD'])
    else ({ s with high := none }, ['\uFFFD', charOf u])
  | none => if isHighSurrogate u then ({ s with high := some u }, []) else (s, [charOf u])

def push (s : Section) (value : Nat) : Section × List Char :=
  let bits := s.bits * 64 + value
  let count := s.count + 6
  if 16 ≤ count then
    let scale := 1 <<< (count - 16)
    ({ s with bits := bits % scale, count := count - 16 } : Section).take (bits / scale)
  else ({ s with bits := bits, count := count }, [])

/-- Whether no more than padding is left over. -/
def isWhole (s : Section) : Bool :=
  s.count < 6 && s.bits == 0

end Section

/-- Reads bytes outside or inside a section. -/
def read : Option Section → List Nat → List Char
  | none, [] => []
  | some s, [] => if s.isWhole && s.high.isNone then [] else ['\uFFFD']
  | none, b :: rest =>
    if b = '+'.toNat then
      match rest with
      | [] => []
      | c :: rest' =>
        if c = '-'.toNat then '+' :: read none rest'
        else if (value? c).isSome then read (some .empty) (c :: rest')
        else '\uFFFD' :: read none rest'
    else if b < 0x80 then Char.ofNat b :: read none rest
    else '\uFFFD' :: read none rest
  | some s, b :: rest =>
    match value? b with
    | some value =>
      let (s, cs) := s.push value
      cs ++ read (some s) rest
    | none =>
      if !s.isWhole then '\uFFFD' :: read none rest
      else
        let waiting := if s.high.isSome && b < 0x80 then ['\uFFFD'] else []
        if b = '-'.toNat then waiting ++ read none rest
        else if b < 0x80 then waiting ++ Char.ofNat b :: read none rest
        else waiting ++ '\uFFFD' :: read none rest
termination_by _ bytes => bytes.length
decreasing_by all_goals simp only [List.length_cons]; omega

end TableTalk.Charset.Utf7

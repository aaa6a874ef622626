import TableTalk.Charset.Grid.KsX1001
import TableTalk.Charset.Reading

/-!
# Character sets of Korea

KS X 1001 has a grid of 94 by 94 cells with a part of the Hangul syllables. EUC-KR writes the others
as four letters, Windows gives them cells of their own, and Johab makes each syllable up from three
numbers of five bits.
-/

namespace TableTalk.Charset

/-- The letters that begin a syllable, those in its middle and those that end it, in order. -/
def initials : List Char := "ㄱㄲㄴㄷㄸㄹㅁㅂㅃㅅㅆㅇㅈㅉㅊㅋㅌㅍㅎ".toList

def medials : List Char := "ㅏㅐㅑㅒㅓㅔㅕㅖㅗㅘㅙㅚㅛㅜㅝㅞㅟㅠㅡㅢㅣ".toList

def finals : List Char := "ㄱㄲㄳㄴㄵㄶㄷㄹㄺㄻㄼㄽㄾㄿㅀㅁㅂㅄㅅㅆㅇㅈㅊㅋㅌㅍㅎ".toList

/-- The first Hangul syllable and how many there are. -/
def firstSyllable : Nat := 0xAC00

def syllableCount : Nat := 11172

/-- The syllable of numbered letters; the number 0 at the end stands for no letter. -/
def syllable (initial medial final : Nat) : Char :=
  Char.ofNat (firstSyllable + (initial * 21 + medial) * 28 + final)

/-- The syllable of letters, the last of which may be the filler. -/
def syllableOf? (initial medial final : Char) : Option Char := do
  let final ← if final = '\u3164' then some 0 else (finals.idxOf? final).map (· + 1)
  return syllable (← initials.idxOf? initial) (← medials.idxOf? medial) final

/-- The Hangul letter, or filler, that two bytes stand for. -/
def letter? (a b : Nat) : Option Char :=
  if a = 0xA4 then cell? ksX1001Rows 0xA1 a b else none

/-- EUC-KR: the filler starts a syllable that is written out as four letters. -/
def eucKr : Step := fun a rest =>
  if a < 0x80 then .ascii a
  else
    match a, rest with
    | _, [] => .cut
    | 0xA4, 0xD4 :: more =>
      match more with
      | a :: b :: c :: d :: e :: f :: _ =>
        .ofChar? 7 (do syllableOf? (← letter? a b) (← letter? c d) (← letter? e f))
      | _ => .cut
    | a, b :: _ => .ofChar? 1 (cell? ksX1001Rows 0xA1 a b)

/-- Which Hangul syllables KS X 1001 has. -/
def syllablesOfKsX1001 : Array Bool :=
  ksX1001Rows.foldl (fun seen row => row.toList.foldl mark seen) (Array.replicate syllableCount false)
where
  mark (seen : Array Bool) (c : Char) : Array Bool :=
    if c.toNat < firstSyllable then seen else seen.setIfInBounds (c.toNat - firstSyllable) true

def otherSyllables : Array Char :=
  ((List.range syllableCount).filter fun n => !syllablesOfKsX1001.getD n true).toArray.map fun n =>
    Char.ofNat (firstSyllable + n)

/-- The place of the second byte of a cell of Windows, an ASCII letter or not an ASCII byte. -/
def windowsPlace? (b : Nat) : Option Nat :=
  if 0x41 ≤ b ∧ b ≤ 0x5A then some (b - 0x41)
  else if 0x61 ≤ b ∧ b ≤ 0x7A then some (b - 0x47)
  else if 0x81 ≤ b ∧ b ≤ 0xFE then some (b - 0x4D)
  else none

/-- The number of a cell among those that Windows gives to further syllables. -/
def otherSyllableNumber? (a b : Nat) : Option Nat := do
  let place ← windowsPlace? b
  if 0x81 ≤ a ∧ a ≤ 0xA0 then return (a - 0x81) * 178 + place
  else if 0xA1 ≤ a ∧ a ≤ 0xC6 ∧ b ≤ 0xA0 then return 32 * 178 + (a - 0xA1) * 84 + place
  else none

def windowsKorean : Step := pairs fun a b =>
  cell? ksX1001Rows 0xA1 a b <|> (otherSyllableNumber? a b).bind (otherSyllables[·]?)

/-- A part of a syllable in Johab. -/
inductive JohabPart where
  | letter (number : Nat)
  | filler

def johabInitial? (n : Nat) : Option JohabPart :=
  if n = 1 then some .filler else if 2 ≤ n ∧ n ≤ 20 then some (.letter (n - 2)) else none

def johabMedial? (n : Nat) : Option JohabPart :=
  if n = 2 then some .filler
  else if 3 ≤ n ∧ n ≤ 7 then some (.letter (n - 3))
  else if 10 ≤ n ∧ n ≤ 15 then some (.letter (n - 5))
  else if 18 ≤ n ∧ n ≤ 23 then some (.letter (n - 7))
  else if 26 ≤ n ∧ n ≤ 29 then some (.letter (n - 9))
  else none

def johabFinal? (n : Nat) : Option JohabPart :=
  if n = 1 then some .filler
  else if 2 ≤ n ∧ n ≤ 17 then some (.letter (n - 2))
  else if 19 ≤ n ∧ n ≤ 29 then some (.letter (n - 3))
  else none

/-- The syllable of three parts, or a single letter, or a blank. -/
def johabSyllable? : JohabPart → JohabPart → JohabPart → Option Char
  | .letter i, .letter m, .letter f => some (syllable i m (f + 1))
  | .letter i, .letter m, .filler => some (syllable i m 0)
  | .letter i, .filler, .filler => initials[i]?
  | .filler, .letter m, .filler => medials[m]?
  | .filler, .filler, .letter f => finals[f]?
  | .filler, .filler, .filler => some '\u3000'
  | _, _, _ => none

/-- The character of KS X 1001, Hangul apart, for two bytes of Johab; two rows share a first
byte. -/
def johabSign? (a b : Nat) : Option Char :=
  if a ≤ 0xD8 ∨ a = 0xDF ∨ 0xF9 < a ∨ b < 0x31 ∨ (0x7F ≤ b ∧ b < 0x91) ∨ b = 0xFF ∨
      (a = 0xDA ∧ 0xA1 ≤ b ∧ b ≤ 0xD3) then none
  else
    let row := if a < 0xE0 then 2 * (a - 0xD9) else 2 * a - 0x197
    let place := if b < 0x91 then b - 0x31 else b - 0x43
    if place < 94 then cell? ksX1001Rows 0 row place else cell? ksX1001Rows 0 (row + 1) (place - 94)

def johab : Step := pairs fun a b =>
  if a < 0xD8 then do
    johabSyllable? (← johabInitial? (a / 4 % 32)) (← johabMedial? (a * 8 % 32 + b / 32))
      (← johabFinal? (b % 32))
  else johabSign? a b

end TableTalk.Charset

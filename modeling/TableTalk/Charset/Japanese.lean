import TableTalk.Charset.Grid.JisX0208
import TableTalk.Charset.Grid.JisX0212
import TableTalk.Charset.Grid.JisX0213
import TableTalk.Charset.Reading

/-!
# Character sets of Japan

JIS X 0208 and JIS X 0212 are grids of 94 by 94 cells; JIS X 0213 fills the first up and adds a
second plane. EUC-JP writes a cell with two bytes above ASCII, Shift-JIS with a first byte that
stands for two rows and a second one that may be an ASCII byte. Katakana of half width have bytes of
their own.
-/

namespace TableTalk.Charset

inductive Edition where
  | first
  | second
  deriving DecidableEq

/-- The half-width katakana of a byte from 0xA1 to 0xDF. -/
def katakana? (b : Nat) : Option Char :=
  if 0xA1 ≤ b ∧ b ≤ 0xDF then some (Char.ofNat (0xFEC0 + b)) else none

/-- The character in a row of a plane that is given by its numbered rows. -/
def numbered? (rows : List (Nat × String)) (row place : Nat) : Option Char := do
  place? (← rows.lookup row) (place - 1)

/-- The characters in a row and place of the first plane of JIS X 0213. A cell that came in later is
known in the first edition, but its character is not. -/
def firstPlane? (edition : Edition) (row place : Nat) : Option (List Char) :=
  if edition = .first ∧ jisX0213LateCells.contains (row, place) then some ['\uFFFD']
  else
    match cell? jisX0208Rows 1 row place with
    | some c => some [c]
    | none => do
      let c ← numbered? jisX0213Rows row place
      match jisX0213Pairs.find? fun (r, p, _) => r = row ∧ p = place with
      | some (_, _, mark) => some [c, mark]
      | none => some [c]

/-- The characters in a row and place of the second plane of JIS X 0213. -/
def secondPlane? (edition : Edition) (row place : Nat) : Option (List Char) :=
  if edition = .first ∧ row = 93 ∧ place = 27 then some ['\u9B1D']
  else (numbered? jisX0213SecondRows row place).map ([·])

/-- The characters that `more` bytes behind the first one help to write, if there are any. -/
def Reading.ofChars? (more : Nat) : Option (List Char) → Reading
  | some cs => .chars cs more
  | none => .invalid 0

/-- EUC with a plane for two bytes and another for two bytes behind 0x8F. -/
def eucJapanese (plane further : Nat → Nat → Option (List Char)) : Step := fun a rest =>
  if a < 0x80 then .ascii a
  else
    match a, rest with
    | 0x8E, b :: _ => .ofChar? 1 (katakana? b)
    | 0x8F, b :: c :: _ => if b < 0xA1 ∨ c < 0xA1 then .invalid 0 else .ofChars? 2 (further b c)
    | 0x8F, _ => .cut
    | _, b :: _ => if a < 0xA1 ∨ b < 0xA1 then .invalid 0 else .ofChars? 1 (plane a b)
    | _, [] => .cut

def eucJp : Step :=
  eucJapanese (fun a b => (cell? jisX0208Rows 0xA1 a b).map ([·]))
    fun a b => (cell? jisX0212Rows 0xA1 a b).map ([·])

def eucJis (edition : Edition) : Step :=
  eucJapanese (fun a b => firstPlane? edition (a - 0xA0) (b - 0xA0)) fun a b =>
    secondPlane? edition (a - 0xA0) (b - 0xA0) <|> (cell? jisX0212Rows 0xA1 a b).map ([·])

/-- The row and the place, counted from one, that two bytes of Shift-JIS stand for. -/
def shifted? (a b : Nat) : Option (Nat × Nat) :=
  if b < 0x40 ∨ b = 0x7F ∨ 0xFC < b then none
  else
    let pair := if a < 0xA0 then a - 0x81 else a - 0xC1
    let place := if b < 0x80 then b - 0x40 else b - 0x41
    if place < 94 then some (2 * pair + 1, place + 1) else some (2 * pair + 2, place - 93)

/-- Shift-JIS with the characters of the bytes below 0x80 and of those that come in pairs. -/
def shiftJapanese (low : Nat → Char) (pair? : Nat → Nat → Option (List Char)) : Step := fun a rest =>
  if a < 0x80 then .chars [low a] 0
  else if (0x81 ≤ a ∧ a ≤ 0x9F) ∨ (0xE0 ≤ a ∧ a ≤ 0xFC) then
    match rest with
    | [] => .cut
    | b :: _ => .ofChars? 1 (pair? a b)
  else .ofChar? 0 (katakana? a)

def shiftJis : Step :=
  shiftJapanese Char.ofNat fun a b => do
    let (row, place) ← shifted? a b
    return [← cell? jisX0208Rows 1 row place]

/-- ASCII with a yen sign and an overline, as JIS X 0201 has it. -/
def romanJapanese (b : Nat) : Char :=
  if b = 0x5C then '¥' else if b = 0x7E then '\u203E' else Char.ofNat b

/-- The row of the second plane that comes as the `n`-th one behind the first plane. -/
def secondPlaneRow (n : Nat) : Nat :=
  match n with
  | 1 => 1
  | 2 => 8
  | 3 => 3
  | 4 => 4
  | 5 => 5
  | 6 => 12
  | 7 => 13
  | 8 => 14
  | 9 => 15
  | n => n + 68

/-- Shift-JIS with both planes. The backslash and the tilde, whose bytes hold other characters,
stand in the cells of their full-width forms. -/
def shiftJis2004 (edition : Edition) : Step :=
  shiftJapanese romanJapanese fun a b => do
    let (row, place) ← shifted? a b
    if row = 1 ∧ place = 32 then return ['\\']
    else if row = 2 ∧ place = 18 then return ['~']
    else if row ≤ 94 then firstPlane? edition row place
    else secondPlane? edition (secondPlaneRow (row - 94)) place

def windowsShiftSigns : List (Nat × Nat × String) := [
  (0x81, 0x60, "～∥"), (0x81, 0x7C, "－"), (0x81, 0x91, "￠￡"), (0x81, 0xCA, "￢")]

/-- The character of two bytes of Shift-JIS as Windows has it, with the makers' rows and with cells
for private use. -/
def windowsShift? (a b : Nat) : Option Char := do
  let place ← if b ≤ 0xFC then wide? b else none
  let makers (rows : List String) (first : Nat) : Option Char := do
    if a < first then none else place? (← rows[a - first]?) place
  if 0xF0 ≤ a ∧ a ≤ 0xF9 then return Char.ofNat (0xE000 + 188 * (a - 0xF0) + place)
  else
    run? windowsShiftSigns a b <|> makers makersHighRows 0xFA <|> makers makersMiddleRows 0xED <|>
      makers makersLowRows 0x87 <|> (do
        let (row, place) ← shifted? a b
        cell? jisX0208Rows 1 row place)

def windowsShift : Step := fun a rest =>
  if a = 0x80 then .ascii a
  else if a = 0xA0 then .chars ['\uF8F0'] 0
  else if 0xFD ≤ a then .chars [Char.ofNat (0xF8F1 + (a - 0xFD))] 0
  else shiftJapanese Char.ofNat (fun a b => (windowsShift? a b).map ([·])) a rest

end TableTalk.Charset

import TableTalk.Charset.Grid.Gb2312
import TableTalk.Charset.Grid.Gb18030
import TableTalk.Charset.Reading

/-!
# Character sets of mainland China

GB 2312 has a grid of 94 by 94 cells. GBK adds signs and, in the order of Unicode, the Chinese
characters of the first block that are not in that grid; GB 18030 adds cells for private use and
sequences of four bytes that reach all of Unicode. HZ writes GB 2312 with ASCII bytes between `~{`
and `~}`.
-/

namespace TableTalk.Charset

def gb2312 : Step := pairs (cell? gb2312Rows 0xA1)

/-- The first of the Chinese characters and how many there are in the first block. -/
def firstHan : Nat := 0x4E00

def hanCount : Nat := 20902

/-- Which Chinese characters of the first block GB 2312 has. -/
def hanOfGb2312 : Array Bool :=
  gb2312Rows.foldl (fun seen row => row.toList.foldl mark seen) (Array.replicate hanCount false)
where
  mark (seen : Array Bool) (c : Char) : Array Bool :=
    if c.toNat < firstHan then seen else seen.setIfInBounds (c.toNat - firstHan) true

/-- The Chinese characters of the first block that GB 2312 lacks, in order. -/
def otherHan : Array Char :=
  ((List.range hanCount).filter fun n => !hanOfGb2312.getD n true).toArray.map fun n =>
    Char.ofNat (firstHan + n)

/-- The number of a cell among those that GBK gives to further Chinese characters: all of the first
bytes below 0xA1, then the second bytes below 0xA1. -/
def otherHanNumber? (a b : Nat) : Option Nat := do
  let place ← wide? b
  if 0x81 ≤ a ∧ a ≤ 0xA0 then return (a - 0x81) * 190 + place
  else if 0xAA ≤ a ∧ a ≤ 0xFE ∧ b ≤ 0xA0 then return 32 * 190 + (a - 0xAA) * 96 + place
  else none

def gbk? (a b : Nat) : Option Char :=
  run? gbkSigns a b <|> cell? gb2312Rows 0xA1 a b <|>
    (otherHanNumber? a b).bind (otherHan[·]?)

def gbk : Step := pairs gbk?

/-- The code point for private use in a cell of the areas that are set apart for users. -/
def userArea? (a b : Nat) : Option Char := do
  let place ← wide? b
  if 0xAA ≤ a ∧ a ≤ 0xAF ∧ 0xA1 ≤ b then return Char.ofNat (0xE000 + (a - 0xAA) * 94 + (b - 0xA1))
  else if 0xF8 ≤ a ∧ a ≤ 0xFE ∧ 0xA1 ≤ b then
    return Char.ofNat (0xE234 + (a - 0xF8) * 94 + (b - 0xA1))
  else if 0xA1 ≤ a ∧ a ≤ 0xA7 ∧ b ≤ 0xA0 then return Char.ofNat (0xE4C6 + (a - 0xA1) * 96 + place)
  else none

/-- The code point of one of the cells that are left free in between; `n` is that of the first cell
of the first run. -/
def freeCell? (a b : Nat) : (runs : List (Nat × Nat × Nat)) → (n : Nat) → Option Nat
  | [], _ => none
  | (first, second, count) :: runs, n =>
    if first = a ∧ second ≤ b ∧ b < second + count then some (n + (b - second))
    else freeCell? a b runs (n + count)

/-- The character that a code point for private use stands for. -/
def settled (n : Nat) : Char :=
  (settledCells.findSome? fun (first, cs) =>
    if first ≤ n then cs.toList[n - first]? else none).getD (Char.ofNat n)

def gb18030Pair? (a b : Nat) : Option Char :=
  gbk? a b <|> userArea? a b <|> (freeCell? a b freeCells 0xE766).map settled

/-- The character of four bytes, of which the second and the fourth are ASCII digits. -/
def fourBytes? (a b c d : Nat) : Option Char :=
  if 0x81 ≤ a ∧ a ≤ 0xFE ∧ 0x81 ≤ c ∧ c ≤ 0xFE ∧ 0x30 ≤ d ∧ d ≤ 0x39 then
    let number (a : Nat) := ((a * 10 + (b - 0x30)) * 126 + (c - 0x81)) * 10 + (d - 0x30)
    if a < 0x85 then
      let n := number (a - 0x81)
      if n < 39420 then
        ((fourByteRuns.takeWhile fun (start, _) => start ≤ n).getLast?).map fun (start, first) =>
          Char.ofNat (first + (n - start))
      else none
    else if 0x90 ≤ a then
      let n := 0x10000 + number (a - 0x90)
      if n ≤ 0x10FFFF then some (Char.ofNat n) else none
    else none
  else none

def gb18030 : Step := fun a rest =>
  if a < 0x80 then .ascii a
  else
    match rest with
    | [] => .cut
    | b :: rest =>
      if 0x30 ≤ b ∧ b ≤ 0x39 then
        match rest with
        | c :: d :: _ => .ofChar? 3 (fourBytes? a b c d)
        | _ => .cut
      else .ofChar? 1 (gb18030Pair? a b)

/-- A step in HZ; the state says whether pairs of bytes are read. -/
def hzStep (paired : Bool) (a : Nat) (rest : List Nat) : Bool × Reading :=
  if a = '~'.toNat then
    match rest with
    | [] => (paired, .cut)
    | b :: _ =>
      if paired then
        if b = '\x7d'.toNat then (false, .chars [] 1) else (paired, .invalid 0)
      else if b = '~'.toNat then (paired, .chars ['~'] 1)
      else if b = '\x7b'.toNat then (true, .chars [] 1)
      else if b = '\n'.toNat then (paired, .chars [] 1)
      else (paired, .invalid 0)
  else if 0x80 ≤ a then (paired, .invalid 0)
  else if paired then
    match rest with
    | [] => (paired, .cut)
    | b :: _ => (paired, .ofChar? 1 (cell? gb2312Rows 0x21 a b))
  else (paired, .ascii a)

end TableTalk.Charset

/-!
# UTF-8

`takeUtf8` reads one character from the front of a row of bytes. Where the bytes are not valid it
passes over the longest start of a valid sequence, at least one byte. `decodeUtf8?` reads a whole
row that must be valid, `decodeUtf8Lossy` puts a replacement character for every invalid stretch,
and `encodeUtf8` is the way back.
-/

namespace TableTalk.Text

/-- What the first byte of a sequence says: how many bytes follow, the range of the first of them
and the value of its own bits. -/
def utf8Lead? (b : Nat) : Option (Nat × Nat × Nat × Nat) :=
  if 0xC2 ≤ b ∧ b ≤ 0xDF then some (1, 0x80, 0xBF, b - 0xC0)
  else if b = 0xE0 then some (2, 0xA0, 0xBF, 0)
  else if b = 0xED then some (2, 0x80, 0x9F, 0xD)
  else if 0xE1 ≤ b ∧ b ≤ 0xEF then some (2, 0x80, 0xBF, b - 0xE0)
  else if b = 0xF0 then some (3, 0x90, 0xBF, 0)
  else if 0xF1 ≤ b ∧ b ≤ 0xF3 then some (3, 0x80, 0xBF, b - 0xF0)
  else if b = 0xF4 then some (3, 0x80, 0x8F, 4)
  else none

/-- Reads `count` further bytes of a sequence, the first of them between `low` and `high`. -/
def takeTail (low high value : Nat) : (count : Nat) → (bytes : List UInt8) → Option Nat × List UInt8
  | 0, bytes => (some value, bytes)
  | _ + 1, [] => (none, [])
  | count + 1, b :: rest =>
    if low ≤ b.toNat ∧ b.toNat ≤ high then
      takeTail 0x80 0xBF (value * 64 + (b.toNat - 0x80)) count rest
    else (none, b :: rest)

theorem takeTail_length (low high value count : Nat) (bytes : List UInt8) :
    (takeTail low high value count bytes).2.length ≤ bytes.length := by
  induction bytes generalizing low high value count with
  | nil => cases count <;> simp [takeTail]
  | cons b rest ih =>
    cases count with
    | zero => simp [takeTail]
    | succ count =>
      rw [takeTail]
      split
      · exact Nat.le_trans (ih ..) (by simp)
      · exact Nat.le_refl _

/-- The character that starts with byte `b` and goes on in `rest`, if valid, and what is left. -/
def takeUtf8 (b : UInt8) (rest : List UInt8) : Option Char × List UInt8 :=
  if b.toNat < 0x80 then (some (Char.ofNat b.toNat), rest)
  else
    match utf8Lead? b.toNat with
    | none => (none, rest)
    | some (count, low, high, value) =>
      let (found, left) := takeTail low high value count rest
      (found.map Char.ofNat, left)

theorem takeUtf8_length (b : UInt8) (rest : List UInt8) :
    (takeUtf8 b rest).2.length ≤ rest.length := by
  rw [takeUtf8]
  split
  · exact Nat.le_refl _
  · split
    · exact Nat.le_refl _
    · exact takeTail_length ..

/-- The characters of a row of bytes, nothing standing for each invalid stretch. -/
def utf8Chars (bytes : List UInt8) : List (Option Char) :=
  match bytes with
  | [] => []
  | b :: rest => (takeUtf8 b rest).1 :: utf8Chars (takeUtf8 b rest).2
termination_by bytes.length
decreasing_by exact Nat.lt_succ_of_le (takeUtf8_length b rest)

/-- The characters of a row of bytes that is valid throughout. -/
def decodeUtf8? (bytes : List UInt8) : Option (List Char) :=
  (utf8Chars bytes).mapM id

/-- The characters of a row of bytes, with U+FFFD for each invalid stretch. -/
def decodeUtf8Lossy (bytes : List UInt8) : List Char :=
  (utf8Chars bytes).map (·.getD '\uFFFD')

def encodeChar (c : Char) : List UInt8 :=
  let n := c.toNat
  let tail (shift : Nat) : UInt8 := UInt8.ofNat (0x80 + n / shift % 64)
  if n < 0x80 then [UInt8.ofNat n]
  else if n < 0x800 then [UInt8.ofNat (0xC0 + n / 64), tail 1]
  else if n < 0x10000 then [UInt8.ofNat (0xE0 + n / 4096), tail 64, tail 1]
  else [UInt8.ofNat (0xF0 + n / 262144), tail 4096, tail 64, tail 1]

def encodeUtf8 (cs : List Char) : List UInt8 :=
  cs.flatMap encodeChar

/-- The mark that may stand at the start of a UTF-8 text. -/
def byteOrderMark : List UInt8 := [0xEF, 0xBB, 0xBF]

def dropMark (bytes : List UInt8) : List UInt8 :=
  if byteOrderMark.isPrefixOf bytes then bytes.drop 3 else bytes

/-- The text with every line ending made a line feed. -/
def unifyNewlines : List Char → List Char
  | [] => []
  | '\r' :: '\n' :: rest => '\n' :: unifyNewlines rest
  | '\r' :: rest => '\n' :: unifyNewlines rest
  | c :: rest => c :: unifyNewlines rest

end TableTalk.Text

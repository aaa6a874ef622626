import TableTalk.Deflate.Block

/-!
# Formats

Blocks may stand bare or between a header and a trailer with a checksum of the output, in one of two
formats. `unpack` reads data in a format; what stands behind the trailer does not matter.
-/

namespace TableTalk.Deflate

open Unpacking

/-- The forms that packed data come in. -/
inductive Format where
  | bare
  | zlib
  | gzip
  deriving DecidableEq, Repr

/-- Two running sums modulo a prime: in the low half that of the bytes, from one on, and in the high
half that of the low half after each byte. -/
def adler32 (bytes : List UInt8) : Nat :=
  let (a, b) := bytes.foldl (fun (a, b) byte =>
    let a := (a + byte.toNat) % 65521
    (a, (b + a) % 65521)) (1, 0)
  b <<< 16 ||| a

/-- One bit of the division that gives a cyclic redundancy check. -/
def crcShift (c : UInt32) : UInt32 :=
  if c &&& 1 = 1 then (c >>> 1) ^^^ 0xEDB88320 else c >>> 1

/-- A cyclic redundancy check of the bytes. -/
def crc32 (bytes : List UInt8) : Nat :=
  let c := bytes.foldl (fun (c : UInt32) byte =>
    (List.range 8).foldl (fun c _ => crcShift c) (c ^^^ byte.toUInt32)) 0xFFFFFFFF
  (c ^^^ 0xFFFFFFFF).toNat

/-- The bytes of a number, from its low end, put together from the high end. -/
def swapped (n : Nat) : Nat :=
  (n % 256) <<< 24 ||| (n / 256 % 256) <<< 16 ||| (n / 65536 % 256) <<< 8 ||| n / 16777216 % 256

def zlibHeader : Unpacking Unit := do
  let head ← bytes 2
  let (first, second) := (head % 256, head / 256)
  if (256 * first + second) % 31 ≠ 0 then refuse .header
  if first % 16 ≠ 8 then refuse .method
  if 7 < first / 16 then refuse .window
  if second.testBit 5 then
    let _ ← bytes 4
    refuse .dictionary

/-- Passes over bytes up to a zero. -/
def passText : (steps : Nat) → Unpacking Unit
  | 0 => throw .ended
  | steps + 1 => do
    if (← bytes 1) = 0 then return else passText steps

def gzipHeader (data : List UInt8) : Unpacking Unit := do
  if (← bytes 2) ≠ 0x8B1F then refuse .header
  let head ← bytes 2
  if head % 256 ≠ 8 then refuse .method
  let flags := head / 256
  if 0x20 ≤ flags then refuse .flags
  let _ ← bytes 6
  if flags.testBit 2 then
    let extra ← bytes 2
    let _ ← bytes extra
  if flags.testBit 3 then passText data.length
  if flags.testBit 4 then passText data.length
  if flags.testBit 1 then
    let sum := crc32 (data.take (data.length - (← get).bits.length / 8))
    if (← bytes 2) ≠ sum % 65536 then refuse .headerSum

def body (format : Format) (data : List UInt8) : Unpacking Unit := do
  match format with
  | .bare => blocks (8 * data.length)
  | .zlib =>
    zlibHeader
    blocks (8 * data.length)
    let sum ← bytes 4
    if swapped sum ≠ adler32 (← get).output.toList then refuse .outputSum
  | .gzip =>
    gzipHeader data
    blocks (8 * data.length)
    let sum ← bytes 4
    if sum ≠ crc32 (← get).output.toList then refuse .outputSum
    let length ← bytes 4
    if length ≠ (← get).output.size % 0x100000000 then refuse .outputLength

def unpack (format : Format) (data : List UInt8) : Except Fault (List UInt8) :=
  (body format data).run data

end TableTalk.Deflate

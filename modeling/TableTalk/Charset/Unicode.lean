import TableTalk.Charset.Reading
import TableTalk.Text.Units
import TableTalk.Text.Utf8

/-!
# Encodings of Unicode

UTF-16 and UTF-32 with a known order of bytes or with a mark in front that tells it, and UTF-8 that
may start with a mark. What is invalid is read as U+FFFD.
-/

namespace TableTalk.Charset

open Text

/-- Reads units of two bytes. A high surrogate at the end and a byte behind it are one fault. -/
def readUtf16 (order : ByteOrder) (bytes : List Nat) : List Char :=
  let (units, left) := shortUnits order bytes
  let endsHigh := units.getLast?.any isHighSurrogate
  joinUnits units ++ (if left.isEmpty || endsHigh then [] else ['\uFFFD'])

/-- Reads units of four bytes. -/
def readUtf32 (order : ByteOrder) (bytes : List Nat) : List Char :=
  let (units, left) := longUnits order bytes
  units.map charOf ++ (if left.isEmpty then [] else ['\uFFFD'])

/-- Reads units of two bytes behind a mark, which has to be there; a byte alone is no unit. -/
def readMarked16? : (bytes : List Nat) → Option (List Char)
  | 0xFF :: 0xFE :: rest => some (readUtf16 .little rest)
  | 0xFE :: 0xFF :: rest => some (readUtf16 .big rest)
  | _ :: _ :: _ => none
  | bytes => some (readUtf16 .little bytes)

/-- Reads units of four bytes behind a mark, which has to be there; fewer bytes are no unit. -/
def readMarked32? : (bytes : List Nat) → Option (List Char)
  | 0xFF :: 0xFE :: 0 :: 0 :: rest => some (readUtf32 .little rest)
  | 0 :: 0 :: 0xFE :: 0xFF :: rest => some (readUtf32 .big rest)
  | _ :: _ :: _ :: _ :: _ => none
  | bytes => some (readUtf32 .little bytes)

/-- Reads UTF-8 behind a mark, if there is one; a part of the mark counts as the mark. -/
def readMarked8 (bytes : List UInt8) : List Char :=
  if bytes.isPrefixOf byteOrderMark then [] else decodeUtf8Lossy (dropMark bytes)

end TableTalk.Charset

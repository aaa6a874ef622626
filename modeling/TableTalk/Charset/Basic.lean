import TableTalk.Charset.Backslash
import TableTalk.Charset.Chinese
import TableTalk.Charset.Escaped
import TableTalk.Charset.Korean
import TableTalk.Charset.Names
import TableTalk.Charset.Page
import TableTalk.Charset.Punycode
import TableTalk.Charset.Taiwanese
import TableTalk.Charset.Unicode
import TableTalk.Charset.Utf7

/-!
# Character sets

`Charset.find?` gives the character set that a label names, and `Charset.decode` reads bytes in it.
Bytes that stand for no character are read as U+FFFD; a few character sets can refuse a whole text.
-/

namespace TableTalk

open Text

inductive Charset where
  | utf8
  /-- UTF-8 that may start with a mark. -/
  | markedUtf8
  | utf16 (order : ByteOrder)
  /-- UTF-16 that has to start with a mark. -/
  | markedUtf16
  | utf32 (order : ByteOrder)
  /-- UTF-32 that has to start with a mark. -/
  | markedUtf32
  | utf7
  | ascii
  | latin
  /-- One character for each byte: a page has all of them, those beyond ASCII, or those beyond the
  control characters that follow ASCII. -/
  | page (cells : String)
  | steps (step : Charset.Step)
  | hz
  | punycode
  | escaped (escapes : Charset.Escapes)
  /-- A name that is kept for texts that must not be decoded. -/
  | forbidden
  /-- A way to pack bytes, which has no characters. -/
  | packing
  /-- A way to change characters, which has no bytes. -/
  | cipher

namespace Charset

/-- Why bytes cannot be read in a character set. -/
inductive Fault where
  /-- The order of the bytes is not told, an escape sequence is left open, or no text may be
  read. -/
  | undecodable
  /-- Bytes are not ASCII where they have to be. -/
  | notAscii
  /-- The character set is none that starts from bytes. -/
  | noBytes
  /-- The character set is none that ends in characters. -/
  | noText
  deriving DecidableEq, Repr

def pageChar (cells : List Char) (size b : Nat) : Char :=
  if b < 256 - size then Char.ofNat b else cells.getD (b - (256 - size)) '\uFFFD'

def readPage (cells : String) (bytes : List Nat) : List Char :=
  let cells := cells.toList
  bytes.map (pageChar cells cells.length)

def decode (charset : Charset) (body : List UInt8) : Except Fault (List Char) :=
  let bytes := body.map UInt8.toNat
  if body.isEmpty then .ok []
  else
    match charset with
    | utf8 => .ok (decodeUtf8Lossy body)
    | markedUtf8 => .ok (readMarked8 body)
    | utf16 order => .ok (readUtf16 order bytes)
    | markedUtf16 => ofOption (readMarked16? bytes)
    | utf32 order => .ok (readUtf32 order bytes)
    | markedUtf32 => ofOption (readMarked32? bytes)
    | utf7 => .ok (Utf7.read none bytes)
    | ascii => .ok (bytes.map fun b => if b < 0x80 then Char.ofNat b else '\uFFFD')
    | latin => .ok (bytes.map Char.ofNat)
    | page cells => .ok (readPage cells bytes)
    | steps step => .ok (readBy step bytes)
    | hz => .ok (readFrom hzStep false bytes).1
    | punycode =>
      match readPunycode? bytes with
      | some cs => .ok cs
      | none => .error .notAscii
    | escaped escapes =>
      let (cs, left) := readFrom (escapedStep escapes) .initial bytes
      if openLimit < left then .error .undecodable else .ok cs
    | forbidden => .error .undecodable
    | packing => .error .noText
    | cipher => .error .noBytes
where
  ofOption : Option (List Char) → Except Fault (List Char)
    | some cs => .ok cs
    | none => .error .undecodable
  /-- The most bytes that may be left of a character that is not finished. -/
  openLimit : Nat := 8

/-- The character sets that are no pages, by name. -/
def known : List (String × Charset) :=
  [("utf_8", utf8), ("utf_8_sig", markedUtf8), ("utf_16", markedUtf16),
    ("utf_16_le", utf16 .little), ("utf_16_be", utf16 .big), ("utf_32", markedUtf32),
    ("utf_32_le", utf32 .little), ("utf_32_be", utf32 .big), ("utf_7", utf7), ("ascii", ascii),
    ("latin_1", latin), ("charmap", latin), ("gb2312", steps gb2312), ("gbk", steps gbk),
    ("gb18030", steps gb18030), ("hz", hz), ("punycode", punycode), ("big5", steps bigFive),
    ("cp950", steps windowsBigFive), ("big5hkscs", steps hongKong),
    ("euc_kr", steps eucKr), ("cp949", steps windowsKorean), ("johab", steps johab),
    ("euc_jp", steps eucJp), ("euc_jisx0213", steps (eucJis .first)),
    ("euc_jis_2004", steps (eucJis .second)), ("shift_jis", steps shiftJis),
    ("shift_jisx0213", steps (shiftJis2004 .first)),
    ("shift_jis_2004", steps (shiftJis2004 .second)), ("cp932", steps windowsShift),
    ("unicode_escape", steps fullEscapes), ("raw_unicode_escape", steps rawEscapes),
    ("undefined", forbidden), ("idna", forbidden), ("hex_codec", packing), ("base64_codec", packing),
    ("quopri_codec", packing), ("uu_codec", packing), ("bz2_codec", packing),
    ("zlib_codec", packing), ("rot_13", cipher)]

def ofName? (name : String) : Option Charset :=
  (known.lookup name).or <| ((escapedSets.lookup name).map escaped).or <|
    ([isoPages, windowsPages, dosPages, macPages, mainframePages, regionalPages].findSome?
      fun pages => pages.lookup name).map page

def find? (label : String) : Option Charset :=
  (namesOf label).findSome? ofName?

end Charset

end TableTalk

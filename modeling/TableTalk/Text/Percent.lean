import TableTalk.Text.Digit
import TableTalk.Text.Quoted
import TableTalk.Text.Utf8

/-!
# Percent-encoding

`percentEncode` writes the characters that may not stand in a place as the bytes of their UTF-8
form, each a percent sign and two hexadecimal digits. `percentDecode` is the way back; a percent
sign that no two such digits follow stands for itself.
-/

namespace TableTalk.Text

def percentByte (b : UInt8) : List Char :=
  '%' :: (hexDigits 2 b.toNat).map Char.toUpper

/-- The text with some visible characters percent-encoded, and with them blanks, control characters
and all beyond ASCII. -/
def percentEncode (stops : List Char) (s : String) : String :=
  String.ofList (s.toList.flatMap fun c =>
    if 0x20 < c.toNat ∧ c.toNat < 0x7F ∧ c ∉ stops then [c]
    else (encodeChar c).flatMap percentByte)

/-- The bytes of a text with percent escapes undone. -/
def percentBytes : List Char → List UInt8
  | [] => []
  | '%' :: a :: b :: rest =>
    match hexValue? a, hexValue? b with
    | some high, some low => UInt8.ofNat (16 * high + low) :: percentBytes rest
    | _, _ => 0x25 :: percentBytes (a :: b :: rest)
  | c :: rest => encodeChar c ++ percentBytes rest

/-- The text with percent escapes undone, and a replacement character for what is no UTF-8 then. -/
def percentDecode (cs : List Char) : String :=
  String.ofList (decodeUtf8Lossy (percentBytes cs))

end TableTalk.Text

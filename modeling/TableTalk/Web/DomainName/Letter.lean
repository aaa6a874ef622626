import TableTalk.Text.Lower
import TableTalk.Text.Mark
import TableTalk.Text.Word

/-!
# Characters of domain names

A name may hold letters, digits and marks that normalisation and lower case leave as they are, and
the hyphen. `unsuitedRanges` has the letters and numerals of Unicode 14 that are no capitals and
still stand in no name: numerals that are not digits, letters that normalisation changes and old
Korean letters.
-/

namespace TableTalk.Web.DomainName

open Text

def unsuitedRangesA : List (Nat × Nat) := [
  (0xAA, 0xBE), (0x133, 0x133), (0x140, 0x140), (0x149, 0x149), (0x17F, 0x17F), (0x1C6, 0x1CC),
  (0x1F3, 0x1F3), (0x2B0, 0x2B8), (0x2E0, 0x2E4), (0x374, 0x374), (0x37A, 0x37A), (0x3D0, 0x3D6),
  (0x3F0, 0x3F2), (0x3F5, 0x3F5), (0x587, 0x587), (0x640, 0x640), (0x675, 0x678), (0x7FA, 0x7FA),
  (0x958, 0x95F), (0x9DC, 0x9DF), (0x9F4, 0x9F9), (0xA33, 0xA33), (0xA36, 0xA36), (0xA59, 0xA5B),
  (0xA5E, 0xA5E), (0xB5C, 0xB5D), (0xB72, 0xB77), (0xBF0, 0xBF2), (0xC78, 0xC7E), (0xD58, 0xD5E),
  (0xD70, 0xD78), (0xE33, 0xE33), (0xEB3, 0xEB3), (0xEDC, 0xEDD), (0xF2A, 0xF33), (0xF43, 0xF43),
  (0xF4D, 0xF4D), (0xF52, 0xF52), (0xF57, 0xF57), (0xF5C, 0xF5C), (0xF69, 0xF69),
  (0x10FC, 0x10FC), (0x1100, 0x11FF), (0x1369, 0x137C), (0x13F8, 0x13FD), (0x16EE, 0x16F0),
  (0x17F0, 0x17F9), (0x19DA, 0x19DA), (0x1C80, 0x1C88), (0x1D2C, 0x1D2E), (0x1D30, 0x1D3A),
  (0x1D3C, 0x1D4D), (0x1D4F, 0x1D6A), (0x1D78, 0x1D78), (0x1D9B, 0x1DBF), (0x1E9A, 0x1E9B),
  (0x1F71, 0x1F71), (0x1F73, 0x1F73), (0x1F75, 0x1F75), (0x1F77, 0x1F77), (0x1F79, 0x1F79),
  (0x1F7B, 0x1F7B), (0x1F7D, 0x1FA7), (0x1FB2, 0x1FB4), (0x1FB7, 0x1FC4), (0x1FC7, 0x1FC7),
  (0x1FD3, 0x1FD3), (0x1FE3, 0x1FE3), (0x1FF2, 0x1FF4), (0x1FF7, 0x2149), (0x2150, 0x2182),
  (0x2185, 0x2793), (0x2C7C, 0x2C7D), (0x2CFD, 0x2CFD), (0x2D6F, 0x2D6F), (0x3021, 0x303B),
  (0x309F, 0x309F), (0x30FF, 0x30FF), (0x3131, 0x3195), (0x3220, 0x32BF), (0xA69C, 0xA69D),
  (0xA6E6, 0xA6EF), (0xA770, 0xA770), (0xA7F2, 0xA7F4), (0xA7F8, 0xA7F9), (0xA830, 0xA835),
  (0xA960, 0xA97C), (0xAB5C, 0xAB5F), (0xAB69, 0xABBF), (0xD7B0, 0xFA0D), (0xFA10, 0xFA10),
  (0xFA12, 0xFA12), (0xFA15, 0xFA1E), (0xFA20, 0xFA20), (0xFA22, 0xFA22), (0xFA25, 0xFA26),
  (0xFA2A, 0xFE72), (0xFE74, 0xFFDC), (0x10107, 0x1018B), (0x102E1, 0x102FB), (0x10320, 0x10323),
  (0x10341, 0x10341), (0x1034A, 0x1034A), (0x103D1, 0x103D5), (0x10781, 0x107BA),
  (0x10858, 0x1085F), (0x10879, 0x1087F), (0x108A7, 0x108AF), (0x108FB, 0x108FF),
  (0x10916, 0x1091B), (0x109BC, 0x109BD), (0x109C0, 0x109FF), (0x10A40, 0x10A48),
  (0x10A7D, 0x10A7E), (0x10A9D, 0x10A9F), (0x10AEB, 0x10AEF), (0x10B58, 0x10B5F),
  (0x10B78, 0x10B7F), (0x10BA9, 0x10BAF), (0x10CFA, 0x10CFF)]

def unsuitedRangesB : List (Nat × Nat) := [
  (0x10E60, 0x10E7E), (0x10F1D, 0x10F26), (0x10F51, 0x10F54), (0x10FC5, 0x10FCB),
  (0x11052, 0x11065), (0x111E1, 0x111F4), (0x1173A, 0x1173B), (0x118EA, 0x118F2),
  (0x11C5A, 0x11C6C), (0x11FC0, 0x11FD4), (0x12400, 0x1246E), (0x16B5B, 0x16B61),
  (0x16E80, 0x16E96), (0x1D2E0, 0x1D7FF), (0x1E8C7, 0x1E8CF), (0x1EC71, 0x1FBF9),
  (0x2F800, 0x2FA1D)]

/-- Ranges whose letters and numerals stand in no name. -/
def unsuitedRanges : List (Nat × Nat) :=
  unsuitedRangesA ++ unsuitedRangesB

/-- Punctuation that counts among the letters of names. -/
def nameSigns : List Char := ['-', '\u06fd', '\u06fe', '\u0f0b']

/-- The Cherokee capitals, of which the small letters count as variants. -/
def isCherokeeCapital (c : Char) : Bool := 0x13A0 ≤ c.toNat && c.toNat ≤ 0x13F5

/-- The characters that may stand in a name whatever is around them. -/
def isPermitted (c : Char) : Bool :=
  nameSigns.contains c || isMark c || isCherokeeCapital c
    || (c != '_' && isWord c && lowerChar c == [c] && !inRanges unsuitedRanges c.toNat)

end TableTalk.Web.DomainName

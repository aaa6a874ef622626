import TableTalk.Charset.Grid.BigFive
import TableTalk.Charset.Grid.HongKong
import TableTalk.Charset.Reading

/-!
# Character sets of Taiwan and Hong Kong

Big5 writes a Chinese character with two bytes, the second of which may be an ASCII one. Windows has
signs of its own in some cells; Hong Kong adds rows, and four cells there hold two characters.
-/

namespace TableTalk.Charset

/-- The place of the second byte in a row of Big5. -/
def bigFivePlace? (b : Nat) : Option Nat :=
  if 0x40 ≤ b ∧ b ≤ 0x7E then some (b - 0x40)
  else if 0xA1 ≤ b ∧ b ≤ 0xFE then some (b - 0x62)
  else none

/-- The character in rows of which the first one is for the first byte `first`. -/
def bigFiveCell? (rows : List String) (first a b : Nat) : Option Char := do
  if a < first then none else place? (← rows[a - first]?) (← bigFivePlace? b)

def bigFive? (a b : Nat) : Option Char :=
  bigFiveCell? bigFiveRows 0xA1 a b

def bigFive : Step := pairs bigFive?

/-- The signs that Windows has in cells of its own, or in place of others. -/
def windowsSigns : List (Nat × Nat × String) := [
  (0xA1, 0x45, "‧"), (0xA1, 0x4E, "﹑"), (0xA1, 0xC2, "¯"), (0xA1, 0xE3, "～"), (0xA1, 0xF2, "⊕⊙"),
  (0xA2, 0x41, "∕﹨"), (0xA2, 0x44, "￥"), (0xA2, 0x46, "￠￡"), (0xA3, 0xE1, "€"),
  (0xF9, 0xD6, "碁銹裏墻恒粧嫺╔╦╗╠╬╣╚╩╝╒╤╕╞╪╡╘╧╛╓╥╖╟╫╢╙╨╜║═╭╮╰╯▓")]

def windowsBigFive : Step := pairs fun a b => run? windowsSigns a b <|> bigFive? a b

/-- The base letter and the accent in the cells of Hong Kong that hold two characters. -/
def accented? (a b : Nat) : Option (List Char) :=
  match a, b with
  | 0x88, 0x62 => some ['Ê', '\u0304']
  | 0x88, 0x64 => some ['Ê', '\u030C']
  | 0x88, 0xA3 => some ['ê', '\u0304']
  | 0x88, 0xA5 => some ['ê', '\u030C']
  | _, _ => none

/-- The character of a cell as it is used in Hong Kong. -/
def hongKong? (a b : Nat) : Option Char :=
  if 0xC6 ≤ a ∧ a ≤ 0xC8 then bigFiveCell? hongKongMiddleRows 0xC6 a b
  else bigFive? a b <|> bigFiveCell? hongKongHighRows 0xF9 a b <|>
    bigFiveCell? hongKongLowRows 0x87 a b

def hongKong : Step := fun a rest =>
  match rest.head?.bind (accented? a) with
  | some cs => .chars cs 1
  | none => pairs hongKong? a rest

end TableTalk.Charset

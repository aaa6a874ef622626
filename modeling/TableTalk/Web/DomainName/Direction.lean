import TableTalk.Text.Mark

/-!
# Direction of domain names

Names run from left to right or from right to left. `isDirected` holds of the labels that cannot be
misread when they are shown among others: without letters or numbers written from right to left
anything goes, else the first character tells the direction and the rest must not contradict it.
-/

namespace TableTalk.Web.DomainName

open Text

inductive Direction where
  | rightward
  | leftward
  /-- A digit of the European kind. -/
  | number
  /-- A digit of the Arabic kind. -/
  | arabicNumber
  /-- A mark, which goes with the character before it. -/
  | mark
  | neutral
  deriving DecidableEq, Repr

/-- Letters written from right to left, the Arabic ones apart. -/
def leftwardRanges : List (Nat × Nat) := [
  (0x5D0, 0x5F4), (0x7C0, 0x7EA), (0x7F4, 0x7F5), (0x800, 0x815), (0x81A, 0x81A), (0x824, 0x824),
  (0x828, 0x828), (0x840, 0x858), (0x10800, 0x10A00), (0x10A10, 0x10A35), (0x10A60, 0x10AE4),
  (0x10B00, 0x10CF2), (0x10E80, 0x10EA9), (0x10EB0, 0x10F27), (0x10F70, 0x10F81),
  (0x10FB0, 0x10FF6), (0x1E800, 0x1E8C4), (0x1E922, 0x1E943), (0x1E94B, 0x1E959)]

/-- Letters of the Arabic kind, written from right to left. -/
def arabicRanges : List (Nat × Nat) := [
  (0x620, 0x64A), (0x66E, 0x66F), (0x671, 0x6D5), (0x6E5, 0x6E6), (0x6EE, 0x6EF), (0x6FA, 0x710),
  (0x712, 0x72F), (0x74D, 0x7A5), (0x7B1, 0x7B1), (0x860, 0x88E), (0x8A0, 0x8C9),
  (0xFE73, 0xFE73), (0x10D00, 0x10D23), (0x10F30, 0x10F45)]

/-- Characters that follow the direction around them. -/
def neutralRanges : List (Nat × Nat) := [
  (0xB7, 0xB7), (0x2B9, 0x2BA), (0x2C6, 0x2CF), (0x2EC, 0x2EC), (0x375, 0x375), (0x2E2F, 0x2E2F),
  (0x30FB, 0x30FB), (0xA67F, 0xA67F), (0xA717, 0xA71F), (0xA788, 0xA788)]

/-- The direction of a character that may stand in a name. -/
def directionOf (c : Char) : Direction :=
  let n := c.toNat
  if c.isDigit || (0x6F0 ≤ n && n ≤ 0x6F9) then .number
  else if n < 0xB7 then if c = '-' then .neutral else .rightward
  else if (0x660 ≤ n && n ≤ 0x669) || (0x10D30 ≤ n && n ≤ 0x10D39) then .arabicNumber
  else if n = 0x200C || n = 0x200D || inRanges neutralRanges n then .neutral
  else if isMark c then if isSpacing c then .rightward else .mark
  else if inRanges leftwardRanges n || inRanges arabicRanges n then .leftward
  else .rightward

/-- Whether a label holds the directions of one that runs from right to left. -/
def isLeftwardRow (row : List Direction) : Bool :=
  let last := (row.reverse.dropWhile (· == .mark)).head?
  !row.contains .rightward && !(row.contains .number && row.contains .arabicNumber)
    && (last == some .leftward || last == some .number || last == some .arabicNumber)

/-- Whether a label holds the directions of one that runs from left to right. -/
def isRightwardRow (row : List Direction) : Bool :=
  let last := (row.reverse.dropWhile (· == .mark)).head?
  !row.contains .leftward && !row.contains .arabicNumber
    && (last == some .rightward || last == some .number)

def isDirected (label : List Char) : Bool :=
  let row := label.map directionOf
  if row.contains .leftward || row.contains .arabicNumber then
    match row.head? with
    | some .leftward => isLeftwardRow row
    | some .rightward => isRightwardRow row
    | _ => false
  else true

end TableTalk.Web.DomainName

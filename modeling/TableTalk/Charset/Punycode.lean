import TableTalk.Text.Punycode
import TableTalk.Text.Units

/-!
# Punycode as a character set

Bytes in Punycode, read as far as they make sense: what stands in front of the last hyphen is kept,
and characters are inserted up to the first number that is malformed.
-/

namespace TableTalk.Charset

open Text

/-- The most that a code point may be, and what stands for a greater one. -/
def lastPoint : Nat := 0x10FFFF

/-- Inserts characters into `done` as numbers tell, as long as these are well-formed. -/
def insertWhile (isFirst : Bool) (bias point position : Nat) (done cs : List Char) : List Char :=
  match cs with
  | [] => done
  | c :: rest =>
    match _h : Punycode.takeNumber? bias (c :: rest) 36 1 0 with
    | none => done
    | some (delta, left) =>
      let count := done.length + 1
      let index := (position + delta) % count
      let next := point + (position + delta) / count
      let point := if lastPoint < next then '?'.toNat else next
      insertWhile false (Punycode.adapt delta count isFirst) point (index + 1)
        (done.take index ++ charOf point :: done.drop index) left
termination_by cs.length
decreasing_by exact Punycode.takeNumber?_length (by assumption)

/-- Reads bytes in Punycode. Those behind the last hyphen have to be ASCII. -/
def readPunycode? (bytes : List Nat) : Option (List Char) :=
  let tail := (bytes.reverse.takeWhile (· ≠ '-'.toNat)).reverse
  let base := bytes.take (bytes.length - tail.length - 1)
  if tail.any (0x80 ≤ ·) then none
  else
    let kept := base.map fun b => if b < 0x80 then Char.ofNat b else '\uFFFD'
    some (insertWhile true Punycode.firstBias Punycode.firstPoint 0 kept (tail.map Char.ofNat))

end TableTalk.Charset

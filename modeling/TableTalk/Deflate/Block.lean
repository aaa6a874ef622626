import TableTalk.Deflate.PrefixCode

/-!
# Blocks

Packed data are a row of blocks. A block holds its bytes as they are, or words of two prefix codes:
one for literal bytes, for the lengths of copies and for the end of the block, the other for how far
back a copy starts. The codes are fixed, or the block starts with the lengths of their words.
-/

namespace TableTalk.Deflate

open Unpacking

/-- The symbol that ends a block; the symbols below are literal bytes, those above are lengths. -/
def endOfBlock : Nat := 256

/-- How many literals and lengths have a meaning. -/
def literalLimit : Nat := 286

/-- How many distances have a meaning. -/
def distanceLimit : Nat := 30

/-- The length that the n-th symbol for a length starts. Four symbols in turn go with each number of
further bits; the last stands for the greatest length alone. -/
def readLength (n : Nat) : Unpacking Nat := do
  if n < 4 then return 3 + n
  else if n = 28 then return 258
  else
    let extra := (n - 4) / 4
    return 3 + ((4 + n % 4) <<< extra) + (← number extra)

/-- The distance that the n-th symbol for a distance starts. Two symbols in turn go with each number
of further bits. -/
def readDistance (n : Nat) : Unpacking Nat := do
  if n < 2 then return 1 + n
  else
    let extra := (n - 2) / 2
    return 1 + ((2 + n % 2) <<< extra) + (← number extra)

/-- The words of a block, at most `steps` of them, put out up to the end of the block. -/
def words (literals distances : PrefixCode) : (steps : Nat) → Unpacking Unit
  | 0 => throw .ended
  | steps + 1 => do
    match ← literals.read with
    | none => refuse .literal
    | some n =>
      if n < endOfBlock then
        put (UInt8.ofNat n)
        words literals distances steps
      else if n = endOfBlock then return
      else if literalLimit ≤ n then refuse .literal
      else
        let length ← readLength (n - endOfBlock - 1)
        match ← distances.read with
        | none => refuse .distance
        | some m =>
          if distanceLimit ≤ m then refuse .distance
          copy (← readDistance m) length
          words literals distances steps

/-- The order in which a block tells the word lengths of the code for word lengths. -/
def lengthOrder : List Nat :=
  [16, 17, 18, 0, 8, 7, 9, 6, 10, 5, 11, 4, 12, 3, 13, 2, 14, 1, 15]

/-- Reads word lengths behind those that are there, until they are as many as `wanted`. A symbol
beyond the lengths repeats the one before, or zero; where the code has no words each bit stands for
zero. -/
def wordLengths (code : PrefixCode) (wanted : Nat) : (steps : Nat) → List Nat → Unpacking (List Nat)
  | 0, lengths => return lengths
  | steps + 1, lengths =>
    if wanted ≤ lengths.length then return lengths
    else do
      let n := (← code.read).getD 0
      let (times, length) ←
        if n = 16 then do
          let more ← number 2
          match lengths.getLast? with
          | none => refuse .repetition
          | some length => pure (3 + more, length)
        else if n = 17 then do pure (3 + (← number 3), 0)
        else if n = 18 then do pure (11 + (← number 7), 0)
        else pure (1, n)
      if wanted < lengths.length + times then refuse .repetition
      wordLengths code wanted steps (lengths ++ List.replicate times length)

/-- The codes that a block starts with: literals and lengths, and distances. -/
def readCodes : Unpacking (PrefixCode × PrefixCode) := do
  let literals := 257 + (← number 5)
  let distances := 1 + (← number 5)
  let given := 4 + (← number 4)
  if literalLimit < literals ∨ distanceLimit < distances then refuse .tooManySymbols
  let told := lengthOrder.zip (← (List.range given).mapM fun _ => number 3)
  let some code := PrefixCode.ofLengths? false ((List.range 19).map fun n => (told.lookup n).getD 0)
    | refuse .lengthCode
  let wanted := literals + distances
  let lengths ← wordLengths code wanted wanted []
  if lengths[endOfBlock]? = some 0 then refuse .endless
  let some literalCode := PrefixCode.ofLengths? true (lengths.take literals)
    | refuse .literalCode
  let some distanceCode := PrefixCode.ofLengths? true (lengths.drop literals)
    | refuse .distanceCode
  return (literalCode, distanceCode)

def fixedLiterals : PrefixCode :=
  (PrefixCode.ofLengths? true (List.replicate 144 8 ++ List.replicate 112 9 ++ List.replicate 24 7
    ++ List.replicate 8 8)).getD .unused

def fixedDistances : PrefixCode :=
  (PrefixCode.ofLengths? true (List.replicate 32 5)).getD .unused

/-- Puts out what is in a block, and says whether it is the last one. -/
def block : Unpacking Bool := do
  let last ← bit
  let kind ← number 2
  let steps := (← get).bits.length + 1
  if kind = 0 then
    toByteEdge
    let length ← bytes 2
    if (← bytes 2) ≠ 0xFFFF - length then refuse .storedLength
    store length
  else if kind = 1 then words fixedLiterals fixedDistances steps
  else if kind = 2 then
    let (literals, distances) ← readCodes
    words literals distances steps
  else refuse .blockKind
  return last

/-- Puts out what is in the blocks, at most `steps` of them. -/
def blocks : (steps : Nat) → Unpacking Unit
  | 0 => throw .ended
  | steps + 1 => do
    if ← block then toByteEdge else blocks steps

end TableTalk.Deflate

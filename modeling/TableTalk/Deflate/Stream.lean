/-!
# Streams that are unpacked

Packed data are read bit by bit, from the low end of each byte, while the output grows. An
`Unpacking` is a computation on a stream that may stop, because the data end or because they are at
fault; what it put out before it stopped stays put out.
-/

namespace TableTalk.Deflate

/-- What is wrong with packed data. -/
inductive Fault where
  /-- The header of the data is not the one of their format. -/
  | header
  /-- The data are packed in an unknown way. -/
  | method
  /-- The data refer farther back than the format allows. -/
  | window
  /-- The header has flags that mean nothing. -/
  | flags
  | headerSum
  /-- The data can only be unpacked with a dictionary, which there is none of. -/
  | dictionary
  | blockKind
  /-- The length of a stored block and its complement do not agree. -/
  | storedLength
  | tooManySymbols
  | lengthCode
  /-- A code length is repeated that there is none of, or too often. -/
  | repetition
  /-- No code ends the block. -/
  | endless
  | literalCode
  | distanceCode
  /-- Bits stand for no literal and no length. -/
  | literal
  /-- Bits stand for no distance. -/
  | distance
  /-- A copy starts in front of the output. -/
  | tooFarBack
  | outputSum
  | outputLength
  deriving DecidableEq, Repr

namespace Fault

def name : Fault → String
  | header => "incorrect header check"
  | method => "unknown compression method"
  | window => "invalid window size"
  | flags => "unknown header flags set"
  | headerSum => "header crc mismatch"
  | dictionary => "need dictionary"
  | blockKind => "invalid block type"
  | storedLength => "invalid stored block lengths"
  | tooManySymbols => "too many length or distance symbols"
  | lengthCode => "invalid code lengths set"
  | repetition => "invalid bit length repeat"
  | endless => "invalid code -- missing end-of-block"
  | literalCode => "invalid literal/lengths set"
  | distanceCode => "invalid distances set"
  | literal => "invalid literal/length code"
  | distance => "invalid distance code"
  | tooFarBack => "invalid distance too far back"
  | outputSum => "incorrect data check"
  | outputLength => "incorrect length check"

/-- The wording of a fault. A missing dictionary is told by its number alone. -/
def message : Fault → String
  | dictionary => "Error 2 while decompressing data"
  | fault => "Error -3 while decompressing data: " ++ fault.name

end Fault

/-- The bits that are still to be read, and the output so far. -/
structure Stream where
  bits : List Bool
  output : Array UInt8

/-- Why a computation stops. -/
inductive Stop where
  | ended
  | fault (f : Fault)

abbrev Unpacking := ExceptT Stop (StateM Stream)

/-- The bits of bytes, each from its low end. -/
def bitsOf (bytes : List UInt8) : List Bool :=
  bytes.flatMap fun b => (List.range 8).map fun n => b.toNat.testBit n

namespace Unpacking

def refuse {α : Type} (f : Fault) : Unpacking α := throw (.fault f)

def bit : Unpacking Bool := do
  let s ← get
  match s.bits with
  | [] => throw .ended
  | b :: rest => set { s with bits := rest }; return b

/-- Reads a number of some bits, the low end first. -/
def number : (bits : Nat) → Unpacking Nat
  | 0 => return 0
  | n + 1 => do
    let low ← bit
    let high ← number n
    return low.toNat + 2 * high

/-- Reads a number of some bytes, the low end first. -/
def bytes (n : Nat) : Unpacking Nat := number (8 * n)

/-- Passes over what is left of a byte. -/
def toByteEdge : Unpacking Unit :=
  modify fun s => { s with bits := s.bits.drop (s.bits.length % 8) }

def put (b : UInt8) : Unpacking Unit :=
  modify fun s => { s with output := s.output.push b }

/-- Puts out the byte that stands some way back in the output, so many times in turn. -/
def copy (distance : Nat) : (times : Nat) → Unpacking Unit
  | 0 => return
  | n + 1 => do
    let s ← get
    if s.output.size < distance then refuse .tooFarBack
    put ((s.output[s.output.size - distance]?).getD 0)
    copy distance n

/-- Puts out a number of bytes as they stand in the data. -/
def store : (times : Nat) → Unpacking Unit
  | 0 => return
  | n + 1 => do
    put (UInt8.ofNat (← bytes 1))
    store n

/-- The output for some bytes. Data that end too early are no fault. -/
def run (x : Unpacking Unit) (data : List UInt8) : Except Fault (List UInt8) :=
  match x ⟨bitsOf data, #[]⟩ with
  | (.error (.fault f), _) => .error f
  | (_, s) => .ok s.output.toList

end Unpacking

end TableTalk.Deflate

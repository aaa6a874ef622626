/-!
# Reading bytes step by step

A character set says of a row of bytes, and of the state it is in, what stands at its front: a
`Reading`. `readFrom` reads a whole row, with a replacement character for every invalid stretch.
Characters are kept in rows of strings, where U+FFFD stands for a cell that is empty.
-/

namespace TableTalk.Charset

/-- What stands at the front of a row of bytes. -/
inductive Reading where
  /-- Characters, written with the first byte and so many more. -/
  | chars (cs : List Char) (more : Nat)
  /-- No character, as the first byte and so many more show. -/
  | invalid (more : Nat)
  /-- The start of a character that the bytes do not finish. -/
  | cut

/-- A character set without state. -/
abbrev Step := Nat → List Nat → Reading

/-- Reads a row of bytes from a state on. The characters come with the number of bytes at the end
that make a part of a character only. -/
def readFrom {σ : Type} (step : σ → Nat → List Nat → σ × Reading) (s : σ) :
    List Nat → List Char × Nat
  | [] => ([], 0)
  | b :: rest =>
    match step s b rest with
    | (s, .chars cs more) =>
      let (after, left) := readFrom step s (rest.drop more)
      (cs ++ after, left)
    | (s, .invalid more) =>
      let (after, left) := readFrom step s (rest.drop more)
      ('\uFFFD' :: after, left)
    | (_, .cut) => (['\uFFFD'], rest.length + 1)
termination_by bytes => bytes.length
decreasing_by all_goals simp only [List.length_drop, List.length_cons]; omega

def readBy (step : Step) (bytes : List Nat) : List Char :=
  (readFrom (fun (_ : Unit) b rest => ((), step b rest)) () bytes).1

/-- One character for the first byte and `more` others, if there is one. -/
def Reading.ofChar? (more : Nat) : Option Char → Reading
  | some c => .chars [c] more
  | none => .invalid 0

def Reading.ascii (b : Nat) : Reading :=
  .chars [Char.ofNat b] 0

/-- A character set with ASCII and pairs of bytes. -/
def pairs (pair? : Nat → Nat → Option Char) : Step := fun a rest =>
  if a < 0x80 then .ascii a
  else
    match rest with
    | [] => .cut
    | b :: _ => .ofChar? 1 (pair? a b)

/-- The character at a place of a string, unless the cell is empty. -/
def place? (row : String) (place : Nat) : Option Char := do
  let c ← row.toList[place]?
  if c = '\uFFFD' then none else some c

/-- The character of a grid for two bytes, each counted from the first byte of the grid on. -/
def cell? (rows : List String) (first a b : Nat) : Option Char := do
  if a < first ∨ b < first then none else place? (← rows[a - first]?) (b - first)

/-- The place of the second byte in rows that start at the byte 0x40 and leave out 0x7F. -/
def wide? (b : Nat) : Option Nat :=
  if 0x40 ≤ b ∧ b < 0x7F then some (b - 0x40)
  else if 0x80 ≤ b ∧ b ≤ 0xFE then some (b - 0x41)
  else none

/-- The character in a list of runs of cells, which are given by the first byte, the second byte of
the first cell and the characters. -/
def run? (runs : List (Nat × Nat × String)) (a b : Nat) : Option Char :=
  runs.findSome? fun (first, second, cs) =>
    if first = a ∧ second ≤ b then place? cs (b - second) else none

end TableTalk.Charset

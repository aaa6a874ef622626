import TableTalk.Yaml.Cursor

/-!
# Block scalars

A block scalar is a stretch of indented lines after a bar or an angle bracket. After a bar the lines
stay as they are; after an angle bracket a line break between two lines that are not indented
further is read as a space. What ends the last line is kept once, dropped after a minus sign, or
kept with all blank lines after a plus sign.
-/

namespace TableTalk.Yaml

/-- What becomes of the line breaks at the end. -/
inductive Chomping where
  | clip
  | strip
  | keep
  deriving DecidableEq, Repr

def chompingOf? : Char → Option Chomping
  | '+' => some .keep
  | '-' => some .strip
  | _ => none

/-- The digit of an indentation, which must not be zero. -/
def takeIncrement (p : Cursor) : Option (Option Nat × Cursor) :=
  match p.rest with
  | [] => some (none, p)
  | c :: _ =>
    if c = '0' then none
    else if c.isDigit then some (some (c.toNat - '0'.toNat), p.step)
    else some (none, p)

def takeChomping (p : Cursor) : Option Chomping × Cursor :=
  match p.rest.head?.bind chompingOf? with
  | some k => (some k, p.step)
  | none => (none, p)

/-- The header after the mark: chomping and indentation in either order, and perhaps a comment. -/
def takeHeader (p : Cursor) : Option (Chomping × Option Nat × Cursor) := do
  let (early, p) := takeChomping p
  let (increment, p) ← takeIncrement p
  let (late, p) :=
    if early.isNone ∧ increment.isSome then takeChomping p else (none, p)
  if !endsField p.rest then none
  let p := p.skipComment
  if !endsLine p.rest then none
  let after := (p.takeBreak?.map (·.2)).getD p
  return ((early.or late).getD .clip, increment, after)

/-- The breaks of the blank lines at the front, the widest indentation among them and in front of
what follows. -/
def leadingBreaks (widest : Nat) : (fuel : Nat) → Cursor → List Char × Nat × Cursor
  | 0, p => ([], widest, p)
  | fuel + 1, p =>
    let p := p.skipSpaces
    let widest := max widest p.column
    match p.takeBreak? with
    | none => ([], widest, p)
    | some (c, p) =>
      let (cs, widest, p) := leadingBreaks widest fuel p
      (c :: cs, widest, p)

/-- Passes over spaces up to a column. -/
def indentTo (indent : Nat) (p : Cursor) : Cursor :=
  p.skip (min (indent - p.column) (p.rest.takeWhile (· = ' ')).length)

/-- The breaks of the blank lines at the front, and what follows them up to the indentation. -/
def blankLines (indent : Nat) : (fuel : Nat) → Cursor → List Char × Cursor
  | 0, p => ([], p)
  | fuel + 1, p =>
    let p := indentTo indent p
    match p.takeBreak? with
    | none => ([], p)
    | some (c, p) =>
      let (cs, p) := blankLines indent fuel p
      (c :: cs, p)

/-- The lines of a block after the blank lines `breaks`, and what follows the block. -/
def blockLines (folded : Bool) (chomping : Chomping) (indent : Nat) (breaks : List Char) :
    (fuel : Nat) → Cursor → List Char × Cursor
  | 0, p => ([], p)
  | fuel + 1, p =>
    if p.column ≠ indent ∨ p.rest = [] then
      (if chomping = .keep then breaks else [], p)
    else
      let indented := isWide p.rest
      let line := p.rest.takeWhile fun c => !isBreak c
      let p := p.skipLine
      let (ending, p) :=
        match p.takeBreak? with
        | some (c, p) => ([c], p)
        | none => ([], p)
      let (next, p) := blankLines indent (p.rest.length + 1) p
      if p.column = indent ∧ p.rest ≠ [] then
        let joint :=
          if folded ∧ ending = ['\n'] ∧ !indented ∧ !isWide p.rest then
            (if next.isEmpty then [' '] else [])
          else ending
        let (more, p) := blockLines folded chomping indent next fuel p
        (breaks ++ line ++ joint ++ more, p)
      else
        let tail :=
          match chomping with
          | .strip => []
          | .clip => ending
          | .keep => ending ++ next
        (breaks ++ line ++ tail, p)
where
  /-- Whether the line is indented further. -/
  isWide : List Char → Bool
    | c :: _ => c = ' ' || c = '\t'
    | [] => false

/-- Reads a block scalar from its mark on, inside a collection with the given indentation. -/
def takeBlockText (folded : Bool) (outer : Int) (p : Cursor) : Option (String × Cursor) := do
  let (chomping, increment, p) ← takeHeader p.step
  let least := max 1 (outer + 1).toNat
  let fuel := p.rest.length + 1
  let (breaks, indent, p) :=
    match increment with
    | some n =>
      let indent := least + n - 1
      let (breaks, p) := blankLines indent fuel p
      (breaks, indent, p)
    | none =>
      let (breaks, widest, p) := leadingBreaks 0 fuel p
      (breaks, max least widest, p)
  let (cs, p) := blockLines folded chomping indent breaks fuel p
  return (String.ofList cs, p)

end TableTalk.Yaml

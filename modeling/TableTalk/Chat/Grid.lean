import TableTalk.Table.Basic
import TableTalk.Table.ResultSet
import TableTalk.Text.Blank

/-!
# Tables on the screen

`Grid.lines` lays cells out in columns: a line of headers, a rule, and the rows, each column as wide
as its widest cell. Long cells are clipped, and rows beyond a number are only counted.
-/

namespace TableTalk.Chat

open Text

/-- The most characters of a cell that are shown. -/
def cellWidth : Nat := 40

/-- The number of rows shown when none is given. -/
def defaultRows : Int := 20

/-- A text on one line, clipped to the width of a cell. -/
def clip (cs : List Char) : List Char :=
  let line := cs.map fun c => if c = '\n' then ' ' else c
  if line.length ≤ cellWidth then line else line.take (cellWidth - 3) ++ ['.', '.', '.']

/-- A value as it is shown in a cell; null is empty, and a whole number with too many digits cannot
be shown. -/
def clipValue : Json → Except Failure (List Char)
  | .null => .ok []
  | v =>
    if (Value.ofJson v).hasHugeInt then .error (.hugeNumeral digitLimit)
    else .ok (clip v.display.toList)

/-- Headers and rows ready to be shown. -/
structure Grid where
  headers : List (List Char)
  rows : List (List (List Char))
  /-- The number of rows that are not shown. -/
  hidden : Nat
  deriving DecidableEq, Repr

namespace Grid

def cellsOf : Json → Except Failure (List Json)
  | .list cells => .ok cells
  | .text s => .ok (s.toList.map fun c => .text (String.singleton c))
  | .record fields => .ok (fields.map fun (n, _) => .text n)
  | _ => .error .wrongKind

/-- The grid of some columns and at most `limit` rows. -/
def ofValues (columns : Json) (rows : List Json) (limit : Int) : Except Failure Grid := do
  let shown := slice 0 (some limit) rows
  let cells ← shown.mapM fun row => do (← cellsOf row).mapM clipValue
  let headers ← (← cellsOf columns).mapM clipValue
  return ⟨headers, cells, rows.length - shown.length⟩

def ofResult (r : ResultSet) (limit : Int) : Grid :=
  let shown := slice 0 (some limit) r.rows
  ⟨r.columns.map fun s => clip s.toList, shown.map fun row => row.map fun s => clip s.toList,
    r.rows.length - shown.length⟩

/-- Widths that are wide enough for a row too; cells beyond the last width do not count. -/
def widen : List Nat → List (List Char) → List Nat
  | w :: ws, c :: cs => max w c.length :: widen ws cs
  | ws, _ => ws

def widths (g : Grid) : List Nat :=
  g.rows.foldl widen (g.headers.map List.length)

/-- A text filled up with spaces to a width. -/
def padTo (width : Nat) (cs : List Char) : List Char :=
  cs ++ List.replicate (width - cs.length) ' '

/-- Cells one beside the other, without white space at the end of the line. -/
def line (widths : List Nat) (cells : List (List Char)) : List Char :=
  trimRight (List.intercalate [' ', '|', ' '] ((cells.zip widths).map fun (c, w) => padTo w c))

def rule (widths : List Nat) : List Char :=
  List.intercalate ['-', '+', '-'] (widths.map fun w => List.replicate w '-')

/-- What is said about the rows that are not shown. -/
def rest (g : Grid) : List String :=
  if g.hidden = 0 then [] else ["... " ++ toString g.hidden ++ " more row(s)"]

def lines (g : Grid) : List String :=
  ((line g.widths g.headers :: rule g.widths :: g.rows.map (line g.widths)).map String.ofList)
    ++ g.rest

end Grid

end TableTalk.Chat

/-!
# Tables

A table has a row of headers and rows of cells. A cell may be missing, and a table that was not
read from CSV text may have rows of any length. `records` is a page of the rows as records, in
which the first column of a name gives the value.
-/

namespace TableTalk

/-- The text in a cell, or nothing. -/
abbrev Cell := Option String

structure Table where
  headers : List String
  rows : List (List Cell)
  deriving DecidableEq, Repr, Inhabited

/-- Where a position counted from the start, or from the end if negative, falls in a list of
length `n`. -/
def clampIndex (n : Nat) (i : Int) : Nat :=
  if i < 0 then (n + i).toNat else min n i.toNat

/-- The items from position `first` up to but not including `stop`. -/
def slice {α : Type} (first : Int) (stop : Option Int) (xs : List α) : List α :=
  let last := (stop.map (clampIndex xs.length)).getD xs.length
  (xs.take last).drop (clampIndex xs.length first)

namespace Table

def width (t : Table) : Nat := t.headers.length

def rowCount (t : Table) : Nat := t.rows.length

/-- A row as a record: each header with its first cell, in the order of the headers. -/
def record (headers : List String) (row : List Cell) : List (String × Cell) :=
  (headers.zip row).foldl
    (fun fields (h, c) => if fields.any (·.1 == h) then fields else fields ++ [(h, c)]) []

/-- The records of the rows from `offset` on, at most `limit` of them. -/
def records (t : Table) (offset : Int) (limit : Option Int) : List (List (String × Cell)) :=
  (slice offset (limit.map (offset + ·)) t.rows).map (record t.headers)

end Table

end TableTalk

import TableTalk.Failure
import TableTalk.Table.Basic

/-!
# Describing a table in words

`describe` lists the columns of a table with a few sample values each, followed by example queries,
for prompts and for readers. The samples of a column are its first distinct nonempty values.
-/

namespace TableTalk.Table

open Text

/-- The name that a table goes by when none is given. -/
def defaultName : String := "survey_data"

/-- The number of sample values to a column when none is given. -/
def defaultSamples : Int := 3

/-- Collects distinct nonempty values in order of first appearance; stops as soon as a value has
been added and `limit` of them are there. -/
def collectSamples (limit : Int) (seen : List String) : List Cell → List String
  | [] => seen
  | none :: cells => collectSamples limit seen cells
  | some value :: cells =>
    if value = "" ∨ value ∈ seen then collectSamples limit seen cells
    else
      let seen := seen ++ [value]
      if limit ≤ seen.length then seen else collectSamples limit seen cells

/-- The cells of a column up to the first row that lacks it, and whether every row has it. -/
def column (position : Nat) : List (List Cell) → List Cell × Bool
  | [] => ([], true)
  | row :: rows =>
    match row[position]? with
    | none => ([], false)
    | some cell =>
      let (cells, full) := column position rows
      (cell :: cells, full)

/-- The sample values of a column. A row that lacks the column is a failure if it is reached before
there are `limit` samples. -/
def samples (t : Table) (position : Nat) (limit : Int) : Except Failure (List String) :=
  let (cells, full) := column position t.rows
  let found := collectSamples limit [] cells
  if full || (!found.isEmpty && decide (limit ≤ found.length)) then .ok found
  else .error .noSuchPosition

def columnLine (t : Table) (limit : Int) (position : Nat) (header : String) :
    Except Failure String := do
  let found ← t.samples position limit
  let suffix :=
    if found.isEmpty then "" else " (e.g., " ++ join ", " (found.map quoted) ++ ")"
  return "- " ++ header ++ ": Column " ++ toString (position + 1) ++ suffix

/-- The description of a table called `name` with `limit` sample values to a column. -/
def describe (t : Table) (name : String) (limit : Int) :
    Except Failure String := do
  let columns ← t.headers.zipIdx.mapM fun (header, position) => t.columnLine limit position header
  let findLine :=
    match t.headers with
    | [] => []
    | first :: _ =>
      ["- \"Find a value\" -> SELECT * FROM " ++ name ++ " WHERE " ++ first ++ " LIKE '%value%'"]
  return join "\n" (
    ["CSV Data Schema:",
      "The table should be treated as \"" ++ name ++ "\" with the following columns:"]
    ++ columns
    ++ ["", "Available columns: " ++ join ", " t.headers, "", "Examples:",
      "- \"Show all data\" -> SELECT * FROM " ++ name ++ " LIMIT 10"]
    ++ findLine)

end TableTalk.Table

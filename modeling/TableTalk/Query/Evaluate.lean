import TableTalk.Query.Order
import TableTalk.Query.Parse
import TableTalk.Query.Plan
import TableTalk.Table.Basic

/-!
# Evaluating a query

`evaluate` answers a query text from a table: the rows that pass the filter, sorted, limited and cut
to the columns wanted, in this order. Rows that compare as equal keep the order of the table in
either direction. A text that is no query gets a one-cell answer saying so.
-/

namespace TableTalk.Query

open Text

structure Answer where
  columns : List String
  rows : List (List String)
  deriving DecidableEq, Repr

def unsupportedMessage : String :=
  "Query type not supported. Please use SELECT statements."

/-- The answer to a text that is no query. -/
def unsupported : Answer := ⟨["message"], [[unsupportedMessage]]⟩

/-- The text in a column of a row; a missing cell counts as empty. -/
def cellAt (row : List Cell) (index : Nat) : String :=
  (row[index]?.getD none).getD ""

/-- Whether a row passes a filter on a column. -/
def passes (index : Nat) (value : String) (row : List Cell) : Bool :=
  contains (lower (cellAt row index)) (lower value)

/-- The rows that pass; a filter that is uninterpreted or on an unknown column passes all. -/
def filterRows (filter : Option Filter) (column : Option Resolution) (rows : List (List Cell)) :
    List (List Cell) :=
  match filter, column with
  | some (.holds _ _ value), some (.column _ index) => rows.filter (passes index value)
  | _, _ => rows

def sortEntry (index : Nat) (row : List Cell) : Except Failure (SortCell × List Cell) := do
  let text := cellAt row index
  return (⟨text, ← leading text⟩, row)

def sortRows (index : Nat) (descending : Bool) (rows : List (List Cell)) :
    Except Failure (List (List Cell)) :=
  -- A single row is never compared, so what its cell holds does not matter.
  if rows.length ≤ 1 then .ok rows
  else do
    let entries ← rows.mapM (sortEntry index)
    return (entries.mergeSort fun a b => a.1.fits descending b.1).map (·.2)

/-- The rows in the order wanted; an unknown sort column leaves the order of the table. -/
def orderRows (key : Option SortKey) (column : Option Resolution) (rows : List (List Cell)) :
    Except Failure (List (List Cell)) :=
  match key, column with
  | some k, some (.column _ index) => sortRows index k.descending rows
  | _, _ => .ok rows

def limitRows (limit : Option Nat) (rows : List (List Cell)) : List (List Cell) :=
  match limit with
  | some n => rows.take n
  | none => rows

def project (projection : List Resolution) (row : List Cell) : List String :=
  projection.map fun r => cellAt row r.index

def answer (strict : Bool) (table : Table) (q : Query) : Except Failure Answer := do
  let p ← plan strict table.headers q
  let rows ← orderRows q.sort p.sort (filterRows q.filter p.filter table.rows)
  return ⟨p.columns, (limitRows q.limit rows).map (project p.projection)⟩

def evaluate (strict : Bool) (table : Table) (text : String) : Except Failure Answer := do
  match ← parse text with
  | none => return unsupported
  | some q => answer strict table q

end TableTalk.Query

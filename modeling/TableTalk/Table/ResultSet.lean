import TableTalk.Failure
import TableTalk.Value

/-!
# Result sets

A `ResultSet` is the answer to one query: columns, rows of texts and the time the query took, in
milliseconds. `toJson` is the form in which it travels and `ofJson` reads that form back,
forgivingly: null cells become empty, other values are shown as text, and what is no list of rows
counts as none.
-/

namespace TableTalk

structure ResultSet where
  columns : List String
  rows : List (List String)
  elapsed : Double
  deriving DecidableEq, Repr, Inhabited

namespace ResultSet

open Json

def rowCount (r : ResultSet) : Nat := r.rows.length

def textList (items : List String) : Json :=
  .list (items.map .text)

def toJson (r : ResultSet) : Json :=
  .record [
    ("columns", textList r.columns),
    ("rows", .list (r.rows.map textList)),
    ("rowCount", .int r.rowCount),
    ("executionTime", .float r.elapsed)]

/-- The items of a value that can be gone through; the items of a text are its characters and those
of a record its names. Whatever counts as no has none. -/
def itemsOf (j : Json) : Except Failure (List Json) :=
  if j.isFalsy then .ok []
  else
    match j with
    | .list items => .ok items
    | .text s => .ok (s.toList.map fun c => .text (String.singleton c))
    | .record fields => .ok (fields.map fun (n, _) => .text n)
    | _ => .error .wrongKind

/-- The text of a cell; null is empty. -/
def cellText : Json → String
  | .null => ""
  | j => j.display

/-- A value as a number, zero if it counts as no. -/
def numberOf (j : Json) : Except Failure Double :=
  if j.isFalsy then .ok Double.zero
  else
    match j with
    | .bool _ => .ok (Double.ofUnits false Double.unitsPerOne 1)
    | .int i => match Double.ofInt? i with | some d => .ok d | none => .error .tooLarge
    | .float d => .ok d
    | .text s => match Double.ofText? s with | some d => .ok d | none => .error (.unreadableNumber s)
    | _ => .error .wrongKind

/-- Reads a result set from the form in which it travels, which must be a record. -/
def ofJson (j : Json) : Except Failure ResultSet := do
  if let .record _ := j then pure () else .error .noFields
  let columns ← itemsOf (j.getD "columns")
  let rows ← itemsOf (j.getD "rows")
  let elapsed ← numberOf (j.getD "executionTime")
  return {
    columns := columns.map Json.display
    rows := rows.filterMap fun
      | .list cells => some (cells.map cellText)
      | _ => none
    elapsed }

end ResultSet

end TableTalk

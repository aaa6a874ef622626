import TableTalk.Source.Location
import TableTalk.Table.ResultSet
import TableTalk.Table.Schema

/-!
# Looking into a data set

An inspector loads a table when it is first asked something and keeps it: every later look is at the
table loaded then. A look that fails to load leaves the inspector as it was.
-/

namespace TableTalk.Source

structure Inspector where
  path : String
  alternative : Option String
  previewRows : Int
  tableName : String
  loaded : Option Table

/-- The number of rows in a preview when none is given. -/
def defaultPreview : Int := 5

/-- What an inspector can be asked. -/
inductive Look where
  | table
  | description
  | columns
  | rowCount
  | preview
  | schema
  deriving DecidableEq, Repr

/-- What an inspector answers: a table or data about it. -/
inductive View where
  | table (t : Table)
  | data (j : Json)

def cellJson : Cell → Json
  | none => .null
  | some s => .text s

def recordJson (fields : List (String × Cell)) : Json :=
  .record (fields.map fun (h, c) => (h, cellJson c))

namespace Inspector

/-- The table, loaded now if it was not before, and the inspector that keeps it. -/
def load (i : Inspector) : Action (Table × Inspector) :=
  match i.loaded with
  | some t => return (t, i)
  | none => do
    let t ← loadTable false i.path i.alternative
    return (t, { i with loaded := some t })

def preview (i : Inspector) (t : Table) : Json :=
  .list ((t.records 0 (some i.previewRows)).map recordJson)

def description (i : Inspector) (t : Table) : Json :=
  .record [
    ("path", .text i.path),
    ("table_name", .text i.tableName),
    ("row_count", .int t.rowCount),
    ("column_count", .int t.width),
    ("columns", ResultSet.textList t.headers),
    ("preview_rows", i.preview t)]

def view (i : Inspector) (t : Table) : Look → Except Failure View
  | .table => .ok (.table t)
  | .description => .ok (.data (i.description t))
  | .columns => .ok (.data (ResultSet.textList t.headers))
  | .rowCount => .ok (.data (.int t.rowCount))
  | .preview => .ok (.data (i.preview t))
  | .schema =>
    (t.describe i.tableName Table.defaultSamples).map fun s => .data (.text s)

def look (i : Inspector) (l : Look) : Action (View × Inspector) := do
  let (t, i) ← i.load
  return (← Action.ofExcept (i.view t l), i)

end Inspector

end TableTalk.Source

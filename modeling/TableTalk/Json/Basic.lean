import TableTalk.Double.Basic

/-!
# JSON values

A `Json` value is built from texts, whole numbers, doubles, truth values and null by lists and by
records, whose fields keep the order in which their names were first given. `put` sets a field and
`get?` finds one.
-/

namespace TableTalk

inductive Json where
  | null
  | bool (b : Bool)
  | int (i : Int)
  | float (d : Double)
  | text (s : String)
  | list (items : List Json)
  | record (fields : List (String × Json))
  deriving Inhabited

namespace Json

/-- Sets a field: in place if its name is there already, else at the end. -/
def put (name : String) (value : Json) : List (String × Json) → List (String × Json)
  | [] => [(name, value)]
  | (n, v) :: rest => if n = name then (n, value) :: rest else (n, v) :: put name value rest

/-- The fields in the order of their first mention, each with the value given last. -/
def ofPairs (pairs : List (String × Json)) : List (String × Json) :=
  pairs.foldl (fun fields (n, v) => put n v fields) []

def get? (name : String) : Json → Option Json
  | record fields => fields.lookup name
  | _ => none

/-- The value of a field, null when the field is missing. -/
def getD (j : Json) (name : String) : Json :=
  (j.get? name).getD null

/-- What counts as no: null, false, zero and everything empty. -/
def isFalsy : Json → Bool
  | null => true
  | bool b => !b
  | int i => i == 0
  | float d => d.isZero
  | text s => s.isEmpty
  | list items => items.isEmpty
  | record fields => fields.isEmpty

end Json

end TableTalk

import TableTalk.Failure
import TableTalk.Query.Basic
import TableTalk.Text.Lower

/-!
# Planning a query against a table

A column name in a query means the first header that equals it, ignoring case. A plan settles every
name of a query. A name that no header equals falls back to the first column in the projection, and
turns off a filter or an ordering; under strict planning it is a failure that lists all such names.
-/

namespace TableTalk.Query

open Text

/-- What a column name means. -/
inductive Resolution where
  | column (name : String) (index : Nat)
  | unknown (name : String)
  deriving DecidableEq, Repr

namespace Resolution

def name : Resolution → String
  | column n _ => n
  | unknown n => n

/-- The column to show: the first one for an unknown name. -/
def index : Resolution → Nat
  | column _ i => i
  | unknown _ => 0

def isUnknown : Resolution → Bool
  | column _ _ => false
  | unknown _ => true

end Resolution

/-- What a column name means among the given headers. -/
def resolve (headers : List String) (name : String) : Resolution :=
  match headers.findIdx? fun header => lower header == lower name with
  | some index => .column name index
  | none => .unknown name

structure Plan where
  columns : List String
  projection : List Resolution
  filter : Option Resolution
  sort : Option Resolution
  deriving DecidableEq, Repr

/-- The columns shown by a projection, all of them if it names none. -/
def resolveProjection (headers : List String) : Option (List String) → List Resolution
  | none => headers.zipIdx.map fun (header, index) => .column header index
  | some names => names.map (resolve headers)

def resolveFilter (headers : List String) : Option Filter → Option Resolution
  | some (.holds column _ _) => some (resolve headers column)
  | _ => none

def resolveSort (headers : List String) (key : Option SortKey) : Option Resolution :=
  key.map fun k => resolve headers k.column

/-- The unknown names among the resolutions, in order. -/
def misses (resolutions : List Resolution) : List String :=
  (resolutions.filter Resolution.isUnknown).map Resolution.name

/-- The unknown names of a query: those of its projection, then its filter's and its sort's. -/
def unknownNames (headers : List String) (q : Query) : List String :=
  misses (resolveProjection headers q.projection ++ (resolveFilter headers q.filter).toList
    ++ (resolveSort headers q.sort).toList)

/-- Settles the names of a query against the headers of a table. -/
def plan (strict : Bool) (headers : List String) (q : Query) : Except Failure Plan :=
  let unknown := unknownNames headers q
  let projection := resolveProjection headers q.projection
  if strict && !unknown.isEmpty then .error (.unknownColumns unknown)
  else
    match projection.mapM fun r => headers[r.index]? with
    | none => .error .noSuchPosition
    | some columns =>
      .ok ⟨columns, projection, resolveFilter headers q.filter, resolveSort headers q.sort⟩

end TableTalk.Query

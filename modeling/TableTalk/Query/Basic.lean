/-!
# Queries

A query selects columns of a table, perhaps filters its rows, sorts them and limits their number.
The parts are kept as the query names them; which columns the names mean is settled against a table
by a plan.
-/

namespace TableTalk.Query

inductive Operator where
  | equals
  | like
  deriving DecidableEq, Repr

inductive Filter where
  /-- The cell in the column holds the value; both operators mean the same. -/
  | holds (column : String) (operator : Operator) (value : String)
  /-- A condition of some other form, which every row meets. -/
  | uninterpreted (clause : String)
  deriving DecidableEq, Repr

structure SortKey where
  column : String
  descending : Bool
  deriving DecidableEq, Repr

end TableTalk.Query

namespace TableTalk

structure Query where
  /-- The columns in the order wanted, or nothing for all of them. -/
  projection : Option (List String)
  filter : Option Query.Filter
  sort : Option Query.SortKey
  limit : Option Nat
  deriving DecidableEq, Repr

end TableTalk

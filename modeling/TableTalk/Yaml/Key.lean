import TableTalk.Value

/-!
# Keys

Which values can be told apart as keys, and when two of them are the same key. Numbers and truth
values go by their amount, moments with a known distance from Greenwich by the time there.
Not-a-number is one key, though it does not equal itself.
-/

namespace TableTalk.Value

/-- The number that a value counts as among keys. -/
def keyNumber? : Value → Option Double
  | bool b => some (if b then Double.ofUnits false Double.unitsPerOne 1 else Double.zero)
  | float d => some d
  | _ => none

def keyInt? : Value → Option Int
  | bool b => some (if b then 1 else 0)
  | int i => some i
  | _ => none

/-- Whether a double is exactly a whole number. -/
def isExactly (i : Int) : Double → Bool
  | .finite negative units =>
    Double.signed negative units == i * (Double.unitsPerOne : Int)
  | _ => false

/-- The moment that a clock with a known distance shows at Greenwich. -/
def greenwich? (m : Moment) : Option Int :=
  m.offset.map fun o => (m.toMicros : Int) - o

/-- Whether two values are the same key. Numbers and truth values go by their amount. -/
def sameKey : Value → Value → Bool
  | null, null => true
  | text s, text t => s == t
  | bytes a, bytes b => a == b
  | date a, date b => a == b
  | moment a, moment b =>
    match greenwich? a, greenwich? b with
    | some x, some y => x == y
    | none, none => a == b
    | _, _ => false
  | a, b =>
    match keyInt? a, keyInt? b with
    | some i, some j => i == j
    | some i, none => (keyNumber? b).any (isExactly i)
    | none, some j => (keyNumber? a).any (isExactly j)
    | none, none =>
      match keyNumber? a, keyNumber? b with
      | some .nan, some .nan => true
      | some x, some y => x.eqv y
      | _, _ => false

/-- Sets an entry: in place if its key is there already, else at the end. -/
def putEntry {α : Type} (key : Value) (value : α) : List (Value × α) → List (Value × α)
  | [] => [(key, value)]
  | (k, v) :: rest => if k.sameKey key then (k, value) :: rest else (k, v) :: putEntry key value rest

end TableTalk.Value

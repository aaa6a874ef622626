import TableTalk.Double.Decimal
import TableTalk.Failure
import TableTalk.Text.Blank
import TableTalk.Text.Letter

/-!
# The order of cells

Two cells that both start with a numeral are ordered by its value, any others by their characters.
`leading` reads the numeral at the start of a cell: after white space and an optional sign either
the word `infinity` or the longest decimal numeral. The word is recognised whatever the case of its
letters, also with a dotless or dotted i, but only ASCII letters denote a number, so reading the
others is a failure.
-/

namespace TableTalk.Query

open Text Double

def infinityWord : List Char := ['i', 'n', 'f', 'i', 'n', 'i', 't', 'y']

/-- The spelling of `infinity` at the front of a text, if it stands there in whatever case. -/
def takeInfinity? (cs : List Char) : Option (List Char) :=
  let word := cs.take infinityWord.length
  if spells infinityWord word then some word else none

/-- The number that a cell starts with, if it starts with one. -/
def leading (cell : String) : Except Failure (Option Double) :=
  let cs := trimLeft cell.toList
  let (negative, body) := takeSign cs
  match takeInfinity? body with
  | some word =>
    if word.all (·.toNat < 128) then .ok (some (.infinite negative))
    else .error (.unreadableNumber (String.ofList (cs.take (cs.length - body.length) ++ word)))
  | none => .ok ((takeNumeral? body).map fun (n, _) => n.value negative)

structure SortCell where
  text : String
  number : Option Double

/-- Whether `a` comes strictly before `b` in ascending order. -/
def SortCell.before (a b : SortCell) : Bool :=
  match a.number, b.number with
  | some x, some y => x.lt y
  | _, _ => decide (a.text < b.text)

/-- Whether `a` may stand before `b` in the order wanted. -/
def SortCell.fits (descending : Bool) (a b : SortCell) : Bool :=
  if descending then !a.before b else !b.before a

end TableTalk.Query

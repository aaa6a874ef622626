import TableTalk.Text.Blank
import TableTalk.Text.Digit
import TableTalk.Text.Search
import TableTalk.Text.Word

/-!
# The clauses of a query text

A query text in lower case is searched for each clause on its own, at the first position where the
whole clause fits; nothing keeps a clause from being found inside another or inside a quoted value.
Keywords need no boundary on either side, apart from the white space that a clause asks for.

* `selected` is the text between `select` and the nearest white space before `from`.
* `condition` is the text from `where` to the nearest `order by` or `limit`, else to the end.
* `likeTest` is a word, the keyword `like` and a value between quotes, reaching to the last quote.
* `ordering` is the word after `order by`, or the word inside a cast there, and a direction.
* `limitDigits` is the row of digits after `limit`.
-/

namespace TableTalk.Query

open Text

def selectWord : List Char := ['s', 'e', 'l', 'e', 'c', 't']
def fromWord : List Char := ['f', 'r', 'o', 'm']
def whereWord : List Char := ['w', 'h', 'e', 'r', 'e']
def likeWord : List Char := ['l', 'i', 'k', 'e']
def orderWord : List Char := ['o', 'r', 'd', 'e', 'r']
def byWord : List Char := ['b', 'y']
def castWord : List Char := ['c', 'a', 's', 't']
def asWord : List Char := ['a', 's']
def ascWord : List Char := ['a', 's', 'c']
def descWord : List Char := ['d', 'e', 's', 'c']
def limitWord : List Char := ['l', 'i', 'm', 'i', 't']

def skipBlanks (cs : List Char) : List Char :=
  cs.dropWhile isBlank

/-- What follows the white space at the front of a text, which must be there. -/
def afterBlanks? : List Char → Option (List Char)
  | [] => none
  | c :: rest => if isBlank c then some (skipBlanks rest) else none

/-- The word at the front of a text and what follows it. -/
def takeWord? (cs : List Char) : Option (List Char × List Char) :=
  match cs.takeWhile isWord with
  | [] => none
  | word => some (word, cs.dropWhile isWord)

def startsWith (start cs : List Char) : Bool :=
  start.isPrefixOf cs

/-- White space and then `from`. -/
def fromAhead (cs : List Char) : Bool :=
  (afterBlanks? cs).any (startsWith fromWord)

/-- White space, `order`, white space and `by`; what follows these. -/
def afterOrderBy? (cs : List Char) : Option (List Char) :=
  (dropStart? orderWord cs).bind fun rest => (afterBlanks? rest).bind (dropStart? byWord)

/-- Where a condition ends: at white space before `order by` or `limit`, or at the end. -/
def conditionEnds (cs : List Char) : Bool :=
  cs.isEmpty || (afterBlanks? cs).any fun rest =>
    (afterOrderBy? rest).isSome || startsWith limitWord rest

def selectedHere (cs : List Char) : Option (List Char) :=
  match dropStart? selectWord cs with
  | none => none
  | some rest =>
    let body := skipBlanks rest
    let gap := rest.length - body.length
    if gap = 0 then none
    else
      match upTo? fromAhead body with
      | some columns => some columns
      -- The gap before `from` may be the end of the one behind `select`; nothing is selected then.
      | none => if 2 ≤ gap && startsWith fromWord body then some [] else none

/-- The text between `select` and `from`. -/
def selected (cs : List Char) : Option (List Char) :=
  findFirst selectedHere cs

/-- The condition after a `where` at the front; it has at least one character. -/
def conditionHere (cs : List Char) : Option (List Char) :=
  match (dropStart? whereWord cs).bind afterBlanks? with
  | some (c :: rest) => (upTo? conditionEnds rest).map (c :: ·)
  | _ => none

/-- The text of the condition on rows. -/
def condition (cs : List Char) : Option (List Char) :=
  findFirst conditionHere cs

def isQuote (c : Char) : Bool :=
  c = '\'' || c = '"'

/-- The text before the last quote, which must not come first. -/
def beforeLastQuote? (cs : List Char) : Option (List Char) :=
  match (cs.reverse.dropWhile fun c => !isQuote c).drop 1 with
  | [] => none
  | inner => some inner.reverse

/-- The column and the value of a `like` comparison at the front. -/
def likeHere (cs : List Char) : Option (List Char × List Char) :=
  match takeWord? cs with
  | none => none
  | some (column, rest) =>
    match ((afterBlanks? rest).bind (dropStart? likeWord)).bind afterBlanks? with
    | some (q :: value) =>
      if isQuote q then (beforeLastQuote? value).map (column, ·) else none
    | _ => none

/-- The column and the value of the `like` comparison in a condition. -/
def likeTest (cs : List Char) : Option (List Char × List Char) :=
  findFirst likeHere cs

/-- A bracket that closes, after white space; what follows it. -/
def afterClosing? (cs : List Char) : Option (List Char) :=
  dropStart? [')'] (skipBlanks cs)

/-- The parameters of a type name in brackets, if they are there; what follows them. -/
def skipTypeParameters (cs : List Char) : List Char :=
  match dropStart? ['('] (skipBlanks cs) with
  | none => cs
  | some inner =>
    match inner.dropWhile (· ≠ ')') with
    -- Without a closing bracket there are no parameters, and the cast fails at the opening one.
    | [] => cs
    | _ :: rest => rest

/-- The column of a cast at the front of a text and what follows the cast. -/
def castColumn? (cs : List Char) : Option (List Char × List Char) :=
  match ((dropStart? castWord cs).map skipBlanks).bind (dropStart? ['(']) with
  | none => none
  | some inner =>
    match takeWord? (skipBlanks inner) with
    | none => none
    | some (column, rest) =>
      match ((((afterBlanks? rest).bind (dropStart? asWord)).bind afterBlanks?).bind takeWord?) with
      | none => none
      | some (_, rest) => (afterClosing? (skipTypeParameters rest)).map (column, ·)

/-- Whether the direction after a sort column is descending. -/
def isDescending (cs : List Char) : Bool :=
  match afterBlanks? cs with
  | none => false
  -- No word has to end here: `descending` and `descr` count as `desc`.
  | some rest => !startsWith ascWord rest && startsWith descWord rest

/-- The sort column of an `order by` at the front and whether its direction is descending. -/
def orderingHere (cs : List Char) : Option (List Char × Bool) :=
  match (afterOrderBy? cs).bind afterBlanks? with
  | none => none
  | some rest =>
    ((castColumn? rest).or (takeWord? rest)).map fun (column, after) => (column, isDescending after)

def ordering (cs : List Char) : Option (List Char × Bool) :=
  findFirst orderingHere cs

/-- The digits of a `limit` at the front. -/
def limitHere (cs : List Char) : Option (List Char) :=
  match (dropStart? limitWord cs).bind afterBlanks? with
  | none => none
  | some rest =>
    match rest.takeWhile isDigit with
    | [] => none
    | digits => some digits

def limitDigits (cs : List Char) : Option (List Char) :=
  findFirst limitHere cs

end TableTalk.Query

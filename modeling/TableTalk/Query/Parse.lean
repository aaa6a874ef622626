import TableTalk.Failure
import TableTalk.Query.Basic
import TableTalk.Query.Clauses
import TableTalk.Text.Lower

/-!
# Reading a query

`parse` reads a query text into its parts, or finds that it is no query because the word `select`
does not occur in it. The text is put into lower case and trimmed first, so every part is in lower
case. A limit of more digits than `Text.digitLimit` is a failure.
-/

namespace TableTalk.Query

open Text

/-- The form of a query text in which its clauses are looked for. -/
def normalize (text : String) : List Char :=
  trimChars (lowerChars text.toList)

def isQuery (text : String) : Bool :=
  occurs selectWord (normalize text)

/-- The columns named by the text after `select`; a lone star names none. -/
def projectionOf (columns : List Char) : Option (List String) :=
  if trimChars columns = ['*'] then none
  else some ((splitOn ',' columns).map fun token => String.ofList (trimChars token))

/-- The filter that a condition expresses. An equals sign anywhere in it decides, then `like`. -/
def filterOf (clause : List Char) : Filter :=
  match cutAt? ['='] clause with
  | some (column, value) =>
    let bare := (trimChars value).filter fun c => !isQuote c
    .holds (String.ofList (trimChars column)) .equals (String.ofList (lowerChars bare))
  | none =>
    match likeTest clause with
    | some (column, pattern) =>
      let bare := pattern.filter (· ≠ '%')
      .holds (String.ofList column) .like (String.ofList (lowerChars bare))
    | none => .uninterpreted (String.ofList clause)

/-- The number that the digits of a limit denote. -/
def limitOf (digits : List Char) : Except Failure Nat :=
  if digits.length ≤ digitLimit then .ok (numeral digits) else .error (.hugeNumeral digits.length)

def parseNormal (cs : List Char) : Except Failure Query := do
  let limit ← (limitDigits cs).mapM limitOf
  return {
    projection := (selected cs).bind projectionOf
    filter := (condition cs).map filterOf
    sort := (ordering cs).map fun (column, descending) => ⟨String.ofList column, descending⟩
    limit }

/-- Reads a query; nothing if the text is no query. -/
def parse (text : String) : Except Failure (Option Query) :=
  if isQuery text then (parseNormal (normalize text)).map some else .ok none

end TableTalk.Query

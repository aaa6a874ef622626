import TableTalk.Csv.Fields
import TableTalk.Failure
import TableTalk.Table.Basic
import TableTalk.Text.Search

/-!
# Reading a table from CSV text

The first line of the text holds the headers. The lines after it are grouped into records: a record
with an odd number of quotes goes on with the next line, and blank lines between records are passed
over. Every row is filled up with empty cells or cut so that it is as wide as the headers.
-/

namespace TableTalk.Csv

open Text

/-- Whether a text holds an odd number of double quotes. -/
def oddQuotes (cs : List Char) : Bool :=
  cs.count '"' % 2 == 1

/-- Groups lines into records; `pending` is a record that an open quote carries on. -/
def records (pending : Option (List Char)) : List (List Char) → List (List Char)
  | [] => pending.toList
  | line :: lines =>
    match pending with
    | none =>
      if allBlank line then records none lines
      else if oddQuotes line then records (some line) lines
      else line :: records none lines
    | some start =>
      -- A blank line belongs to the record here.
      let joined := start ++ '\n' :: line
      if oddQuotes joined then records (some joined) lines
      else joined :: records none lines

/-- A row of exactly `width` fields. -/
def fitRow (width : Nat) (fields : List (List Char)) : List (List Char) :=
  (fields ++ List.replicate (width - fields.length) []).take width

def tableOf (headers : List (List Char)) (rows : List (List (List Char))) : Table :=
  ⟨headers.map String.ofList, rows.map (·.map (some ∘ String.ofList))⟩

def parseChars (cs : List Char) : Except Failure Table :=
  if allBlank cs then .error .noData
  else
    match splitOn '\n' cs with
    | [] => .error .noData
    | header :: lines =>
      let headers := fieldChars header
      .ok (tableOf headers ((records none lines).map fun r => fitRow headers.length (fieldChars r)))

def parse (text : String) : Except Failure Table :=
  parseChars text.toList

end TableTalk.Csv

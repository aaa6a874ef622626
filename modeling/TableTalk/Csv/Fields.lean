import TableTalk.Text.Blank

/-!
# The fields of a CSV record

A record is cut into fields at the commas outside double quotes. A quote opens or closes a quoted
part, and two quotes in a row inside one stand for a quote; neither has to stand at the edge of a
field. Each field is trimmed once it is put together. `scan` runs over the characters with the
state of being inside quotes and also tells the state at the end.
-/

namespace TableTalk.Csv

open Text

/-- The outcome of a scan: the text up to the first cut, the texts after it, and whether the scan
ended inside quotes. -/
structure Scan where
  field : List Char
  others : List (List Char)
  isOpen : Bool
  deriving DecidableEq, Repr

namespace Scan

def push (c : Char) (s : Scan) : Scan :=
  { s with field := c :: s.field }

def cut (s : Scan) : Scan :=
  ⟨[], s.field :: s.others, s.isOpen⟩

def fields (s : Scan) : List (List Char) :=
  s.field :: s.others

end Scan

/-- Runs over a record; the first argument says whether it starts inside quotes. -/
def scan : Bool → List Char → Scan
  | inQuotes, [] => ⟨[], [], inQuotes⟩
  -- The pair comes first: its first quote would close the part otherwise.
  | true, '"' :: '"' :: rest => (scan true rest).push '"'
  | inQuotes, '"' :: rest => scan (!inQuotes) rest
  | false, ',' :: rest => (scan false rest).cut
  | inQuotes, c :: rest => (scan inQuotes rest).push c

def fieldChars (record : List Char) : List (List Char) :=
  (scan false record).fields.map trimChars

def splitFields (record : String) : List String :=
  (fieldChars record.toList).map String.ofList

end TableTalk.Csv

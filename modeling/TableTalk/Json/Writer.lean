import TableTalk.Json.Basic
import TableTalk.Double.Shortest
import TableTalk.Text.Quoted

/-!
# Writing JSON text

`write` puts a value on one line, with a blank after every comma and colon; `writeIndented` puts
every item and field on a line of its own, two more blanks deep than what encloses it. Characters
beyond ASCII stand as they are.

`draft` is the text of a value that is written bit by bit. It may break off, at a list or record
that stands inside too many others or at a whole number with too many digits, and what was written
before stays. A value that is written to its end has the text that `writeChars` gives.
-/

namespace TableTalk.Json

open Text

/-- How a character is written inside a quoted text. -/
def escapeChar (c : Char) : List Char :=
  if c = '"' then ['\\', '"']
  else if c = '\\' then ['\\', '\\']
  else if c = '\n' then ['\\', 'n']
  else if c = '\r' then ['\\', 'r']
  else if c = '\t' then ['\\', 't']
  else if c = '\x08' then ['\\', 'b']
  else if c = '\x0c' then ['\\', 'f']
  else if c.toNat < 0x20 then '\\' :: 'u' :: hexDigits 4 c.toNat
  else [c]

def writeText (s : String) : List Char :=
  '"' :: s.toList.flatMap escapeChar ++ ['"']

def writeDouble : Double → List Char
  | .nan => "NaN".toList
  | .infinite negative => (if negative then "-Infinity" else "Infinity").toList
  | d => d.text.toList

mutual

def writeChars : Json → List Char
  | null => "null".toList
  | bool b => (if b then "true" else "false").toList
  | int i => (toString i).toList
  | float d => writeDouble d
  | text s => writeText s
  | list items => '[' :: writeItems items ++ [']']
  | record fields => '{' :: writeFields fields ++ ['}']

def writeItems : List Json → List Char
  | [] => []
  | [j] => writeChars j
  | j :: rest => writeChars j ++ [',', ' '] ++ writeItems rest

def writeFields : List (String × Json) → List Char
  | [] => []
  | [(n, j)] => writeText n ++ [':', ' '] ++ writeChars j
  | (n, j) :: rest => writeText n ++ [':', ' '] ++ writeChars j ++ [',', ' '] ++ writeFields rest

end

def write (j : Json) : String :=
  String.ofList (writeChars j)

/-- A line break and the indentation of what stands `depth` levels deep. -/
def newLine (depth : Nat) : List Char :=
  '\n' :: List.replicate (2 * depth) ' '

mutual

def indentedChars (depth : Nat) : Json → List Char
  | list [] => ['[', ']']
  | list items => '[' :: indentedItems (depth + 1) items ++ newLine depth ++ [']']
  | record [] => ['{', '}']
  | record fields => '{' :: indentedFields (depth + 1) fields ++ newLine depth ++ ['}']
  | null => "null".toList
  | bool b => (if b then "true" else "false").toList
  | int i => (toString i).toList
  | float d => writeDouble d
  | text s => writeText s

def indentedItems (depth : Nat) : List Json → List Char
  | [] => []
  | [j] => newLine depth ++ indentedChars depth j
  | j :: rest => newLine depth ++ indentedChars depth j ++ [','] ++ indentedItems depth rest

def indentedFields (depth : Nat) : List (String × Json) → List Char
  | [] => []
  | [(n, j)] => newLine depth ++ writeText n ++ [':', ' '] ++ indentedChars depth j
  | (n, j) :: rest =>
    newLine depth ++ writeText n ++ [':', ' '] ++ indentedChars depth j ++ [',']
      ++ indentedFields depth rest

end

/-- The value over several lines, indented by two. -/
def writeIndented (j : Json) : String :=
  String.ofList (indentedChars 0 j)

/-- What keeps a value from being written to its end. -/
inductive WriteError where
  | tooDeep
  | hugeInteger (digits : Nat)
  deriving DecidableEq, Repr

/-- A text as far as it was written, and why it breaks off there, if it does. -/
structure Draft where
  text : List Char
  error : Option WriteError
  deriving DecidableEq, Repr

namespace Draft

def whole (cs : List Char) : Draft :=
  ⟨cs, none⟩

def broken (e : WriteError) : Draft :=
  ⟨[], some e⟩

/-- One draft behind another; nothing comes behind a text that breaks off. -/
def append (a b : Draft) : Draft :=
  match a.error with
  | none => ⟨a.text ++ b.text, b.error⟩
  | some _ => a

instance : Append Draft where
  append := append

end Draft

open Draft

def draftInt (i : Int) : Draft :=
  let digits := (Nat.repr i.natAbs).length
  if digitLimit < digits then broken (.hugeInteger digits) else whole (toString i).toList

/-- The draft of an item behind a bracket or comma. A number goes into one bit with what stands
before it, so neither is written if there is no text of the number. -/
def draftItem (opening : List Char) (j : Json) (d : Draft) : Draft :=
  match j, d.error with
  | int _, some e => broken e
  | _, _ => whole opening ++ d

mutual

/-- Writes a value where `room` more lists and records may stand inside one another. -/
def draft (room : Nat) : Json → Draft
  | null => whole "null".toList
  | bool b => whole (if b then "true" else "false").toList
  | int i => draftInt i
  | float d => whole (writeDouble d)
  | text s => whole (writeText s)
  | list items =>
    match room with
    | 0 => broken .tooDeep
    | room + 1 =>
      if items.isEmpty then whole ['[', ']'] else draftItems room ['['] items ++ whole [']']
  | record fields =>
    match room with
    | 0 => broken .tooDeep
    | room + 1 => whole ['{'] ++ (draftFields room [] fields ++ whole ['}'])

def draftItems (room : Nat) (opening : List Char) : List Json → Draft
  | [] => whole []
  | j :: rest => draftItem opening j (draft room j) ++ draftItems room [',', ' '] rest

def draftFields (room : Nat) (opening : List Char) : List (String × Json) → Draft
  | [] => whole []
  | (n, j) :: rest =>
    whole (opening ++ writeText n ++ [':', ' ']) ++ (draft room j ++ draftFields room [',', ' '] rest)

end

end TableTalk.Json

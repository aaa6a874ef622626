import TableTalk.Calendar.Basic
import TableTalk.Json.Basic
import TableTalk.Text.Digit
import TableTalk.Text.Quoted
import TableTalk.Text.Search

/-!
# Data of settings and scenarios

A `Value` is what a YAML document holds: beside the kinds that JSON has there are dates, moments,
bytes, sets and tuples, any value may be the key of a mapping, and a collection may stand inside
itself. `unfold` looks into such a knot. `display` writes a value as it is shown to a reader, where
a text stands for itself; inside lists and mappings the form is `shown`, in which texts are quoted
and dots stand for a collection inside itself.
-/

namespace TableTalk

inductive Value where
  | null
  | bool (b : Bool)
  | int (i : Int)
  | float (d : Double)
  | text (s : String)
  | date (d : Date)
  | moment (m : Moment)
  | bytes (bs : List UInt8)
  | list (items : List Value)
  | tuple (items : List Value)
  | set (items : List Value)
  | map (entries : List (Value × Value))
  /-- A collection that stands inside itself, where its number stands for it. -/
  | knot (number : Nat) (v : Value)
  | again (number : Nat)
  deriving Inhabited

namespace Value

open Text

mutual

def ofJson : Json → Value
  | .null => null
  | .bool b => bool b
  | .int i => int i
  | .float d => float d
  | .text s => text s
  | .list items => list (ofItems items)
  | .record fields => map (ofFields fields)

def ofItems : List Json → List Value
  | [] => []
  | j :: rest => ofJson j :: ofItems rest

def ofFields : List (String × Json) → List (Value × Value)
  | [] => []
  | (n, j) :: rest => (text n, ofJson j) :: ofFields rest

end

mutual

/-- Puts a value for the number of a knot. -/
def tie (number : Nat) (whole : Value) : Value → Value
  | again n => if n = number then whole else again n
  | knot n v => if n = number then knot n v else knot n (tie number whole v)
  | list items => list (tieItems number whole items)
  | tuple items => tuple (tieItems number whole items)
  | set items => set (tieItems number whole items)
  | map entries => map (tieEntries number whole entries)
  | v => v

def tieItems (number : Nat) (whole : Value) : List Value → List Value
  | [] => []
  | v :: rest => tie number whole v :: tieItems number whole rest

def tieEntries (number : Nat) (whole : Value) : List (Value × Value) → List (Value × Value)
  | [] => []
  | (k, v) :: rest => (tie number whole k, tie number whole v) :: tieEntries number whole rest

end

/-- The collection that a knot is, with the knot itself in it where its number stood. -/
def unfold : Value → Value
  | knot number v => tie number (knot number v) v
  | v => v

/-- What counts as no: null, false, zero and everything empty. -/
def isFalsy : Value → Bool
  | null => true
  | bool b => !b
  | int i => i == 0
  | float d => d.isZero
  | text s => s.isEmpty
  | date _ => false
  | moment _ => false
  | bytes bs => bs.isEmpty
  | list items => items.isEmpty
  | tuple items => items.isEmpty
  | set items => items.isEmpty
  | map entries => entries.isEmpty
  | knot _ v => v.isFalsy
  | again _ => false

/-- The value of the entry whose key is the text `name`. -/
def get? (name : String) (v : Value) : Option Value :=
  match v.unfold with
  | map entries =>
    (entries.find? fun (k, _) => match k with | text s => s == name | _ => false).map (·.2)
  | _ => none

def shownBool (b : Bool) : String := if b then "True" else "False"

def shownDate (d : Date) : String :=
  "datetime.date(" ++ toString d.year ++ ", " ++ toString d.month ++ ", " ++ toString d.day ++ ")"

def shownOffset (offset : Int) : String :=
  if offset = 0 then "datetime.timezone.utc"
  else
    let days := offset / (Moment.microsPerDay : Int)
    let rest := offset % (Moment.microsPerDay : Int)
    let seconds := rest / (Moment.microsPerSecond : Int)
    let micros := rest % (Moment.microsPerSecond : Int)
    let parts :=
      (if days = 0 then [] else ["days=" ++ toString days])
        ++ (if seconds = 0 then [] else ["seconds=" ++ toString seconds])
        ++ (if micros = 0 then [] else ["microseconds=" ++ toString micros])
    "datetime.timezone(datetime.timedelta(" ++ join ", " parts ++ "))"

def shownMoment (m : Moment) : String :=
  let day := [m.date.year, m.date.month, m.date.day, m.hour, m.minute]
  let fine :=
    if m.micro ≠ 0 then [m.second, m.micro] else if m.second ≠ 0 then [m.second] else []
  let zone := (m.offset.map fun o => ["tzinfo=" ++ shownOffset o]).getD []
  "datetime.datetime(" ++ join ", " ((day ++ fine).map toString ++ zone) ++ ")"

def shownByte (quote : Char) (b : UInt8) : List Char :=
  let c := Char.ofNat b.toNat
  if b.toNat < 0x7F ∨ c = '\t' then escapeChar quote c
  else '\\' :: 'x' :: hexDigits 2 b.toNat

def shownBytes (bs : List UInt8) : String :=
  let quote := quoteFor (bs.map fun b => Char.ofNat b.toNat)
  "b" ++ String.ofList (quote :: bs.flatMap (shownByte quote) ++ [quote])

/-- What stands for a collection inside itself. -/
def dots : Value → String
  | list _ => "[...]"
  | set _ => "set(...)"
  | tuple _ => "(...)"
  | _ => "\x7b...\x7d"

mutual

/-- How a value is shown inside the knots of the given numbers, for each of which it is said what
stands for it. -/
def shownIn (outer : List (Nat × String)) : Value → String
  | null => "None"
  | bool b => shownBool b
  | int i => toString i
  | float d => d.text
  | text s => quoted s
  | date d => shownDate d
  | moment m => shownMoment m
  | bytes bs => shownBytes bs
  | list items => "[" ++ join ", " (shownItems outer items) ++ "]"
  | tuple [item] => "(" ++ shownIn outer item ++ ",)"
  | tuple items => "(" ++ join ", " (shownItems outer items) ++ ")"
  | set [] => "set()"
  | set items => "\x7b" ++ join ", " (shownItems outer items) ++ "\x7d"
  | map entries => "\x7b" ++ join ", " (shownEntries outer entries) ++ "\x7d"
  | knot number v =>
    match outer.lookup number with
    | some dots => dots
    | none => shownIn ((number, v.dots) :: outer) v
  | again number => (outer.lookup number).getD ""

def shownItems (outer : List (Nat × String)) : List Value → List String
  | [] => []
  | v :: rest => shownIn outer v :: shownItems outer rest

def shownEntries (outer : List (Nat × String)) : List (Value × Value) → List String
  | [] => []
  | (k, v) :: rest => (shownIn outer k ++ ": " ++ shownIn outer v) :: shownEntries outer rest

end

/-- How a value is shown inside another. -/
def shown (v : Value) : String :=
  v.shownIn []

/-- How a value is shown on its own. -/
def display : Value → String
  | text s => s
  | date d => d.text
  | moment m => m.text
  | v => v.shown

mutual

/-- Whether a whole number in a value has more digits than can be shown. -/
def hasHugeInt : Value → Bool
  | int i => Nat.pow 10 digitLimit ≤ i.natAbs
  | list items => anyHugeInt items
  | tuple items => anyHugeInt items
  | set items => anyHugeInt items
  | map entries => anyHugeEntry entries
  | knot _ v => hasHugeInt v
  | _ => false

def anyHugeInt : List Value → Bool
  | [] => false
  | v :: rest => hasHugeInt v || anyHugeInt rest

def anyHugeEntry : List (Value × Value) → Bool
  | [] => false
  | (k, v) :: rest => hasHugeInt k || hasHugeInt v || anyHugeEntry rest

end

end Value

/-- How a JSON value is shown on its own. -/
def Json.display (j : Json) : String :=
  (Value.ofJson j).display

end TableTalk

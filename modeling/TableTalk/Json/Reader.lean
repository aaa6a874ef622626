import TableTalk.Json.Basic
import TableTalk.Double.Decimal
import TableTalk.Text.Units

/-!
# Reading JSON text

`parse` reads a whole text as one value. Beyond the grammar of JSON it takes the words `NaN`,
`Infinity` and `-Infinity` as doubles. Where a text is malformed the error says how many of its
characters are still unread at the place where reading stopped. `isTooDeep` tells the texts,
malformed or not, in which too many lists and records stand inside one another; brackets in texts do
not count.
-/

namespace TableTalk.Json

open Double Text

inductive ReadError where
  /-- The text is no JSON; so many characters were left at the first fault. -/
  | malformed (left : Nat)
  /-- A whole number has more digits than `Text.digitLimit`. -/
  | hugeInteger (digits : Nat)
  deriving DecidableEq, Repr

/-- A reading step: a value and the characters that follow it. -/
abbrev Step (α : Type) := Except ReadError (α × List Char)

def isSpace (c : Char) : Bool :=
  c = ' ' || c = '\t' || c = '\n' || c = '\r'

def skipSpace (cs : List Char) : List Char :=
  cs.dropWhile isSpace

/-- The character that a one-letter escape stands for. -/
def shortEscape? : Char → Option Char
  | '"' => some '"'
  | '\\' => some '\\'
  | '/' => some '/'
  | 'b' => some '\x08'
  | 'f' => some '\x0c'
  | 'n' => some '\n'
  | 'r' => some '\r'
  | 't' => some '\t'
  | _ => none

/-- The code units of a text after its opening quote, up to the closing one. A character that is
written out is one unit; an escape `\u` gives the unit that it names. `opening` is what was left at
the opening quote. -/
def readUnits (opening : Nat) : List Char → Step (List Nat)
  | [] => .error (.malformed opening)
  | '"' :: rest => .ok ([], rest)
  | '\\' :: 'u' :: rest =>
    match rest with
    | a :: b :: c :: d :: e :: rest' =>
      match hexValue? a, hexValue? b, hexValue? c, hexValue? d with
      | some a, some b, some c, some d =>
        (readUnits opening (e :: rest')).map fun (units, after) =>
          ((((a * 16 + b) * 16 + c) * 16 + d) :: units, after)
      | _, _, _, _ => .error (.malformed (rest.length + 1))
    | _ => .error (.malformed (rest.length + 1))
  | '\\' :: c :: rest =>
    match shortEscape? c with
    | some c => (readUnits opening rest).map fun (units, after) => (c.toNat :: units, after)
    | none => .error (.malformed (rest.length + 2))
  | ['\\'] => .error (.malformed opening)
  | c :: rest =>
    if c.toNat < 0x20 then .error (.malformed (rest.length + 1))
    else (readUnits opening rest).map fun (units, after) => (c.toNat :: units, after)

def readText (cs : List Char) : Step String :=
  (readUnits (cs.length + 1) cs).map fun (units, after) => (String.ofList (joinUnits units), after)

/-- The digits of a fraction at the front of `cs` and what follows it. -/
def takeFraction (cs : List Char) : List Char × List Char :=
  match cs with
  | '.' :: d :: rest =>
    if d.isDigit then ((d :: rest).takeWhile Char.isDigit, (d :: rest).dropWhile Char.isDigit)
    else ([], cs)
  | _ => ([], cs)

/-- Reads a number; one with neither fraction nor exponent is whole. -/
def readNumber (cs : List Char) : Step Json :=
  let (negative, body) :=
    match cs with
    | '-' :: rest => (true, rest)
    | _ => (false, cs)
  let (whole, rest) :=
    match body with
    | '0' :: rest => (['0'], rest)
    | _ => (body.takeWhile Char.isDigit, body.dropWhile Char.isDigit)
  if whole.isEmpty then .error (.malformed cs.length)
  else
    let (fraction, rest) := takeFraction rest
    let (exponent, rest) := takeExponent Char.isDigit rest
    if fraction.isEmpty && exponent.isNone then
      if whole.length ≤ Text.digitLimit then
        let n : Int := Text.numeral whole
        .ok (.int (if negative then -n else n), rest)
      else .error (.hugeInteger whole.length)
    else .ok (.float (Numeral.value negative ⟨whole, fraction, exponent⟩), rest)

mutual

/-- Reads the value at the front of `cs`; `fuel` bounds the number of steps and is enough when it
exceeds twice the number of characters. -/
def readValue : (fuel : Nat) → (cs : List Char) → Step Json
  | 0, cs => .error (.malformed cs.length)
  | fuel + 1, cs =>
    match cs with
    | [] => .error (.malformed 0)
    | '"' :: rest => (readText rest).map fun (s, after) => (.text s, after)
    | '{' :: rest =>
      match skipSpace rest with
      | '}' :: after => .ok (.record [], after)
      | inner => (readFields fuel inner).map fun (fields, after) => (.record (ofPairs fields), after)
    | '[' :: rest =>
      match skipSpace rest with
      | ']' :: after => .ok (.list [], after)
      | inner => (readItems fuel inner).map fun (items, after) => (.list items, after)
    | 'n' :: 'u' :: 'l' :: 'l' :: after => .ok (.null, after)
    | 't' :: 'r' :: 'u' :: 'e' :: after => .ok (.bool true, after)
    | 'f' :: 'a' :: 'l' :: 's' :: 'e' :: after => .ok (.bool false, after)
    | 'N' :: 'a' :: 'N' :: after => .ok (.float .nan, after)
    | 'I' :: 'n' :: 'f' :: 'i' :: 'n' :: 'i' :: 't' :: 'y' :: after =>
      .ok (.float (.infinite false), after)
    | '-' :: 'I' :: 'n' :: 'f' :: 'i' :: 'n' :: 'i' :: 't' :: 'y' :: after =>
      .ok (.float (.infinite true), after)
    | _ => readNumber cs

/-- Reads the items of a list up to its closing bracket. -/
def readItems : (fuel : Nat) → (cs : List Char) → Step (List Json)
  | 0, cs => .error (.malformed cs.length)
  | fuel + 1, cs =>
    match readValue fuel cs with
    | .error e => .error e
    | .ok (item, after) =>
      match skipSpace after with
      | ']' :: rest => .ok ([item], rest)
      | ',' :: rest => (readItems fuel (skipSpace rest)).map fun (items, end') => (item :: items, end')
      | rest => .error (.malformed rest.length)

/-- Reads the fields of a record up to its closing brace. -/
def readFields : (fuel : Nat) → (cs : List Char) → Step (List (String × Json))
  | 0, cs => .error (.malformed cs.length)
  | fuel + 1, cs =>
    match cs with
    | '"' :: rest =>
      match readText rest with
      | .error e => .error e
      | .ok (name, after) =>
        match skipSpace after with
        | ':' :: rest =>
          match readValue fuel (skipSpace rest) with
          | .error e => .error e
          | .ok (value, after) =>
            match skipSpace after with
            | '}' :: rest => .ok ([(name, value)], rest)
            | ',' :: rest =>
              (readFields fuel (skipSpace rest)).map fun (fields, end') =>
                ((name, value) :: fields, end')
            | rest => .error (.malformed rest.length)
        | rest => .error (.malformed rest.length)
    | _ => .error (.malformed cs.length)

end

def parseChars (cs : List Char) : Except ReadError Json :=
  match readValue (2 * cs.length + 2) (skipSpace cs) with
  | .error e => .error e
  | .ok (value, after) =>
    match skipSpace after with
    | [] => .ok value
    | rest => .error (.malformed rest.length)

def parse (s : String) : Except ReadError Json :=
  parseChars s.toList

/-- Where in a text a reader is: outside of texts, inside, or behind a backslash there. -/
inductive Spot where
  | outside
  | inside
  | escaped
  deriving DecidableEq

/-- The deepest nesting in a text that starts `depth` deep at a spot. -/
def deepest (spot : Spot) (depth : Nat) : List Char → Nat
  | [] => depth
  | c :: rest =>
    match spot with
    | .escaped => deepest .inside depth rest
    | .inside =>
      deepest (if c = '"' then .outside else if c = '\\' then .escaped else .inside) depth rest
    | .outside =>
      if c = '"' then deepest .inside depth rest
      else if c = '[' ∨ c = '\x7b' then deepest .outside (depth + 1) rest
      else if c = ']' ∨ c = '\x7d' then max depth (deepest .outside (depth - 1) rest)
      else deepest .outside depth rest

/-- The most lists and records that may stand inside one another in a text that is read. Each takes
a call inside the one before, at most a thousand calls may be under way, and this many are left
where the bodies of requests and replies are read. The number is measured; a reader that is called
from deeper down has a few less. -/
def nestingLimit : Nat := 985

/-- The most lists and records that may stand inside one another in a value that is written bit by
bit. Two calls less are under way then than when a text is read in the same place. -/
def writingLimit : Nat := nestingLimit + 2

/-- Whether a text is nested too deeply to be read. -/
def isTooDeep (cs : List Char) : Bool :=
  nestingLimit < deepest .outside 0 cs

end TableTalk.Json

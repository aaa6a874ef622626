import TableTalk.Failure
import TableTalk.Text.Digit
import TableTalk.Text.Quoted

/-!
# Templates

A template is a text with holes in braces; a brace that is text is written twice. A hole names what
fills it and may go on with accessors, a conversion after an exclamation mark and a layout after a
colon: fill and alignment, width and precision. An index goes to a character of the text, and an
attribute to its kind, which has a name. A layout may itself have holes. `fill` puts a text into all
holes of one name.
-/

namespace TableTalk.Text.Template

inductive Piece where
  | literal (c : Char)
  | hole (path : List Char) (conversion : Option Char) (layout : List Char)
  | fault

/-- The name part of a hole up to its end: what is left starts at the closing brace, colon or
exclamation mark. Nothing between square brackets ends it. -/
def takePath (inBrackets : Bool) : List Char → Option (List Char × List Char)
  | [] => some ([], [])
  | c :: rest =>
    if inBrackets then (takePath (c ≠ ']') rest).map fun (p, r) => (c :: p, r)
    else if c = '{' then none
    else if c = '}' ∨ c = ':' ∨ c = '!' then some ([], c :: rest)
    else (takePath (c = '[') rest).map fun (p, r) => (c :: p, r)

/-- A layout up to the brace that closes its hole; braces inside it pair up. -/
def takeLayout : (depth : Nat) → List Char → Option (List Char × List Char)
  | _, [] => none
  | depth, '{' :: rest => (takeLayout (depth + 1) rest).map fun (l, r) => ('{' :: l, r)
  | 0, '}' :: rest => some ([], rest)
  | depth + 1, '}' :: rest => (takeLayout depth rest).map fun (l, r) => ('}' :: l, r)
  | depth, c :: rest => (takeLayout depth rest).map fun (l, r) => (c :: l, r)

/-- The end of a hole after its name: conversion, layout and what follows the hole. -/
def takeEnd : List Char → Option (Option Char × List Char × List Char)
  | '}' :: rest => some (none, [], rest)
  | ':' :: rest => (takeLayout 0 rest).map fun (l, r) => (none, l, r)
  | '!' :: c :: '}' :: rest => some (some c, [], rest)
  | '!' :: c :: ':' :: rest => (takeLayout 0 rest).map fun (l, r) => (some c, l, r)
  | _ => none

/-- The hole at the front of a text whose opening brace has been passed, and what follows it. -/
def takeHole (cs : List Char) : Option (Piece × List Char) :=
  match takePath false cs with
  | none => none
  | some (path, rest) =>
    (takeEnd rest).map fun (conversion, layout, after) => (.hole path conversion layout, after)

/-- The pieces of a template; `fuel` bounds their number. What is malformed is a fault, and nothing
follows it. -/
def pieces : (fuel : Nat) → List Char → List Piece
  | 0, _ => []
  | _, [] => []
  | fuel + 1, '{' :: '{' :: rest => .literal '{' :: pieces fuel rest
  | fuel + 1, '}' :: '}' :: rest => .literal '}' :: pieces fuel rest
  | _ + 1, ['{'] => [.fault]
  | _ + 1, '}' :: _ => [.fault]
  | fuel + 1, '{' :: rest =>
    match takeHole rest with
    | none => [.fault]
    | some (piece, after) => piece :: pieces fuel after
  | fuel + 1, c :: rest => .literal c :: pieces fuel rest

/-- The greatest number that may stand in a hole. -/
def numberBound : Nat := 9223372036854775807

/-- The number that digits in a hole denote, unless it is too great. -/
def number? (ds : List Char) : Option Nat :=
  if numberBound < numeral ds then none else some (numeral ds)

/-- The first name in a hole and the accessors after it. -/
def splitPath (path : List Char) : List Char × List Char :=
  (path.takeWhile fun c => c ≠ '.' ∧ c ≠ '[', path.dropWhile fun c => c ≠ '.' ∧ c ≠ '[')

/-- What the accessors of a hole lead to. -/
inductive Filler where
  | text (cs : List Char)
  | kind (name : String)

namespace Filler

/-- The attribute of a name. -/
def attribute? (name : List Char) : Filler → Option Filler
  | text _ => if name = "__class__".toList then some (kind "str") else none
  | kind k =>
    if name = "__class__".toList then some (kind "type")
    else if name = "__name__".toList ∨ name = "__qualname__".toList then some (text k.toList)
    else none

/-- The character of a text at a position, if that has a number. A kind has no characters. -/
def item (filler : Filler) (index : List Char) : Except Failure Filler :=
  if !index.all isDigit then .error .wrongKind
  else
    match number? index, filler with
    | none, _ => .error .badTemplate
    | some _, kind _ => .error .wrongKind
    | some n, text cs =>
      match cs[n]? with
      | none => .error .noSuchPosition
      | some c => .ok (text [c])

/-- A filler as it stands in the text. -/
def chars : Filler → List Char
  | text cs => cs
  | kind name => ("<class '" ++ name ++ "'>").toList

end Filler

def access : (fuel : Nat) → List Char → Filler → Except Failure Filler
  | 0, _, _ => .error .badTemplate
  | _ + 1, [], filler => .ok filler
  | fuel + 1, '.' :: rest, filler =>
    let (name, after) := splitPath rest
    if name = [] then .error .badTemplate
    else
      match filler.attribute? name with
      | none => .error .noFields
      | some filler => access fuel after filler
  | fuel + 1, '[' :: rest, filler =>
    let index := rest.takeWhile (· ≠ ']')
    match rest.dropWhile (· ≠ ']') with
    | [] => .error .badTemplate
    | _ :: after =>
      if index = [] then .error .badTemplate
      else do access fuel after (← filler.item index)
  | _ + 1, _ :: _, _ => .error .badTemplate

def lookUp (name value : List Char) (path : List Char) : Except Failure Filler :=
  let (first, accessors) := splitPath path
  if first.all isDigit then
    .error (if (number? first).isSome then .positionalHole else .badTemplate)
  else if first ≠ name then .error .unknownHole
  else access (accessors.length + 1) accessors (.text value)

def asciiOnly (cs : List Char) : List Char :=
  cs.flatMap fun c =>
    if c.toNat < 128 then [c]
    else if c.toNat < 0x100 then '\\' :: 'x' :: hexDigits 2 c.toNat
    else if c.toNat < 0x10000 then '\\' :: 'u' :: hexDigits 4 c.toNat
    else '\\' :: 'U' :: hexDigits 8 c.toNat

def Filler.quoted : Filler → List Char
  | text cs => (Text.quoted (String.ofList cs)).toList
  | filler => filler.chars

/-- Applies a conversion, if there is one: to a text as it stands, quoted, or quoted in ASCII. -/
def convert (filler : Filler) : Option Char → Except Failure Filler
  | none => .ok filler
  | some 's' => .ok (.text filler.chars)
  | some 'r' => .ok (.text filler.quoted)
  | some 'a' => .ok (.text (asciiOnly filler.quoted))
  | some _ => .error .badTemplate

inductive Alignment where
  | left
  | right
  | center

def alignment? : Char → Option Alignment
  | '<' => some .left
  | '>' => some .right
  | '^' => some .center
  | _ => none

structure Layout where
  fill : Char
  alignment : Alignment
  width : Nat
  precision : Option Nat

/-- Fill and alignment at the front of a layout. -/
def takeAlignment (cs : List Char) : Option Char × Option Alignment × List Char :=
  match cs with
  | f :: a :: rest =>
    match alignment? a with
    | some x => (some f, some x, rest)
    | none =>
      match alignment? f with
      | some x => (none, some x, a :: rest)
      | none => (none, none, cs)
  | [f] =>
    match alignment? f with
    | some x => (none, some x, [])
    | none => (none, none, cs)
  | [] => (none, none, [])

/-- The precision after a point, if there is one. -/
def takePrecision : List Char → Option (Option Nat × List Char)
  | '.' :: rest =>
    match rest.takeWhile isDigit with
    | [] => none
    | ds => (number? ds).map fun n => (some n, rest.dropWhile isDigit)
  | cs => some (none, cs)

def readLayout (cs : List Char) : Option Layout :=
  let (fill, alignment, rest) := takeAlignment cs
  let (fill, rest) :=
    match fill, rest with
    | none, '0' :: more => (some '0', more)
    | f, r => (f, r)
  match number? (rest.takeWhile isDigit), takePrecision (rest.dropWhile isDigit) with
  | none, _ => none
  | _, none => none
  | some width, some (precision, last) =>
    if last = [] ∨ last = ['s'] then
      some ⟨fill.getD ' ', alignment.getD .left, width, precision⟩
    else none

def Layout.apply (l : Layout) (value : List Char) : List Char :=
  let cut := match l.precision with | some n => value.take n | none => value
  let room := l.width - cut.length
  let pad (n : Nat) := List.replicate n l.fill
  match l.alignment with
  | .left => cut ++ pad room
  | .right => pad room ++ cut
  | .center => pad (room / 2) ++ cut ++ pad (room - room / 2)

/-- Lays a filler out. Only a text takes a layout that says something. -/
def layOut (layout : List Char) (filler : Filler) : Except Failure (List Char) :=
  if layout = [] then .ok filler.chars
  else
    match filler, readLayout layout with
    | .kind _, _ => .error .wrongKind
    | .text _, none => .error .badTemplate
    | .text cs, some l => .ok (l.apply cs)

/-- Fills the holes of a template; layouts may have holes down to `depth` levels. -/
def fillChars (name value : List Char) : (depth : Nat) → List Char → Except Failure (List Char)
  | 0, _ => .error .badTemplate
  | depth + 1, template =>
    (pieces (template.length + 1) template).foldl (fun done piece => do
      let done ← done
      match piece with
      | .literal c => return done ++ [c]
      | .fault => throw .badTemplate
      | .hole path conversion layout =>
        let found ← convert (← lookUp name value path) conversion
        let layout ← if layout.contains '{' then fillChars name value depth layout else pure layout
        return done ++ (← layOut layout found)) (.ok [])

/-- Fills the holes called `name` of a template. -/
def fill (name value template : String) : Except Failure String :=
  (fillChars name.toList value.toList 2 template.toList).map String.ofList

end TableTalk.Text.Template

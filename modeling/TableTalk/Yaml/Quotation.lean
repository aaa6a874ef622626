import TableTalk.Text.Digit
import TableTalk.Yaml.Cursor

/-!
# Quoted scalars

A scalar in single quotes holds its characters as they are, a quote written twice standing for one.
In double quotes a backslash starts an escape. In both a line break is read as a space, blank lines
as line breaks and white space around them not at all.
-/

namespace TableTalk.Yaml

open Text

/-- The character that a one-letter escape stands for. -/
def escaped? : Char → Option Char
  | '0' => some '\x00'
  | 'a' => some '\x07'
  | 'b' => some '\x08'
  | 't' => some '\t'
  | '\t' => some '\t'
  | 'n' => some '\n'
  | 'v' => some '\x0b'
  | 'f' => some '\x0c'
  | 'r' => some '\r'
  | 'e' => some '\x1b'
  | ' ' => some ' '
  | '"' => some '"'
  | '\\' => some '\\'
  | '/' => some '/'
  | 'N' => some '\x85'
  | '_' => some '\xa0'
  | 'L' => some '\u2028'
  | 'P' => some '\u2029'
  | _ => none

/-- The number of digits after a letter that starts a numeric escape. -/
def escapeWidth? : Char → Option Nat
  | 'x' => some 2
  | 'u' => some 4
  | 'U' => some 8
  | _ => none

def hexNumber? (cs : List Char) : Option Nat :=
  cs.foldlM (fun n c => (hexValue? c).map (16 * n + ·)) 0

def isBlankMark (c : Char) : Bool := c = ' ' || c = '\t'

/-- The breaks of blank lines, and what follows them and the white space after them. A mark between
documents must not come up. -/
def quotedBreaks : (fuel : Nat) → Cursor → Option (List Char × Cursor)
  | 0, _ => none
  | fuel + 1, p =>
    if atSeparator p.rest then none
    else
      let p := p.skipWhile isBlankMark
      match p.takeBreak? with
      | none => some ([], p)
      | some (c, p) => (quotedBreaks fuel p).map fun (cs, p) => (c :: cs, p)

/-- What the white space at the front stands for, and what follows it. -/
def quotedGap (p : Cursor) : Option (List Char × Cursor) :=
  let spaces := p.rest.takeWhile isBlankMark
  let p := p.skipWhile isBlankMark
  match p.takeBreak? with
  | none => some (spaces, p)
  | some (c, p) => do
    let (breaks, p) ← quotedBreaks (p.rest.length + 1) p
    let first := if c ≠ '\n' then [c] else if breaks.isEmpty then [' '] else []
    return (first ++ breaks, p)

/-- What the escape after a backslash stands for, and what follows it. -/
def takeEscape (p : Cursor) : Option (List Char × Cursor) :=
  match p.rest with
  | [] => none
  | c :: rest =>
    match escaped? c, escapeWidth? c with
    | some d, _ => some ([d], p.step)
    | none, some width =>
      let digits := rest.take width
      if digits.length = width then do
        let n ← hexNumber? digits
        let d := if 0xD800 ≤ n ∧ n < 0xE000 then '\uFFFD' else Char.ofNat n
        if n < 0x110000 then return ([d], p.skip (width + 1)) else none
      else none
    | none, none => do
      let (_, p) ← p.takeBreak?
      quotedBreaks (p.rest.length + 1) p

/-- The text up to the closing quote, and what follows that. -/
def quotedText (quote : Char) : (fuel : Nat) → Cursor → Option (List Char × Cursor)
  | 0, _ => none
  | fuel + 1, p =>
    match p.rest with
    | [] => none
    | c :: rest =>
      if c = quote then
        if quote = '\'' ∧ rest.head? = some '\'' then
          (quotedText quote fuel (p.skip 2)).map fun (cs, p) => ('\'' :: cs, p)
        else some ([], p.step)
      else if c = '\\' ∧ quote = '"' then do
        let (some (first, p)) := takeEscape p.step | none
        let (cs, p) ← quotedText quote fuel p
        return (first ++ cs, p)
      else if atGap [c] then do
        let (first, p) ← quotedGap p
        let (cs, p) ← quotedText quote fuel p
        return (first ++ cs, p)
      else (quotedText quote fuel p.step).map fun (cs, p) => (c :: cs, p)

def takeQuotation (quote : Char) (p : Cursor) : Option (String × Cursor) :=
  (quotedText quote (p.rest.length + 1) p.step).map fun (cs, p) => (String.ofList cs, p)

end TableTalk.Yaml

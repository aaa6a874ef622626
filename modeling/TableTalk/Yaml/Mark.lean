import TableTalk.Text.Utf8
import TableTalk.Yaml.Quotation
import TableTalk.Yaml.Token

/-!
# Directives, tags and anchors

The marks that go by names: directives at the start of a document, tags and anchors in front of a
node, and aliases that stand for one.
-/

namespace TableTalk.Yaml

open Text

def isNameChar (c : Char) : Bool := c.isAlphanum || c = '-' || c = '_'

def isUriChar (c : Char) : Bool :=
  c.isAlphanum || "-;/?:@&=+$,_.!~*'()[]%".toList.contains c

/-- The characters of a stretch of a tag, with percent escapes undone. -/
def uriBytes? : List Char → Option (List UInt8)
  | [] => some []
  | '%' :: a :: b :: rest => do
    let n ← hexNumber? [a, b]
    return UInt8.ofNat n :: (← uriBytes? rest)
  | '%' :: _ => none
  | c :: rest => do return encodeChar c ++ (← uriBytes? rest)

/-- Reads the rest of a tag, which must not be empty. -/
def takeUri (p : Cursor) : Option (String × Cursor) := do
  let cs := p.rest.takeWhile isUriChar
  if cs.isEmpty then none
  let bytes ← uriBytes? cs
  return (String.ofList (← decodeUtf8? bytes), p.skip cs.length)

/-- Reads a handle: an exclamation mark, or a name between two of them. -/
def takeHandle (p : Cursor) : Option (String × Cursor) :=
  match p.rest with
  | '!' :: rest =>
    if rest.head? = some ' ' then some ("!", p.step)
    else
      let name := rest.takeWhile isNameChar
      match rest.drop name.length with
      | '!' :: _ => some (String.ofList ('!' :: name ++ ['!']), p.skip (name.length + 2))
      | _ => none
  | _ => none

def takeTag (p : Cursor) : Option (Token × Cursor) := do
  let rest := p.rest.drop 1
  let (token, p) ←
    match rest with
    | '<' :: _ => do
      let (suffix, p) ← takeUri (p.skip 2)
      if p.rest.head? = some '>' then pure (Token.tag none suffix, p.step) else none
    | _ =>
      if atGap rest then pure (Token.tag none "!", p.step)
      else do
        let word := rest.takeWhile fun c => !(c = ' ' || isBreak c)
        let (handle, p) ← if word.contains '!' then takeHandle p else pure ("!", p.step)
        let (suffix, p) ← takeUri p
        pure (Token.tag (some handle) suffix, p)
  if endsField p.rest then some (token, p) else none

def takeName (p : Cursor) : Option (String × Cursor) := do
  let name := (p.rest.drop 1).takeWhile isNameChar
  let after := p.skip (name.length + 1)
  if name.isEmpty then none
  if atGap after.rest ∨ (after.rest.head?.map "?:,]\x7d%@\x60".toList.contains).getD false then
    return (String.ofList name, after)
  else none

/-- Reads the number of a version up to its last digit. -/
def takeDigits (p : Cursor) : Option (Nat × Cursor) :=
  let digits := p.rest.takeWhile Char.isDigit
  if digits.isEmpty then none else some (numeral digits, p.skip digits.length)

def takeDirectiveValue (name : String) (p : Cursor) : Option (Token × Cursor) :=
  if name = "YAML" then do
    let (major, p) ← takeDigits p.skipSpaces
    if p.rest.head? ≠ some '.' then none
    let (_, p) ← takeDigits p.step
    if endsField p.rest then return (.version major, p) else none
  else if name = "TAG" then do
    let (handle, p) ← takeHandle p.skipSpaces
    if p.rest.head? ≠ some ' ' then none
    let (start, p) ← takeUri p.skipSpaces
    if endsField p.rest then return (.tagHandle handle start, p) else none
  else some (.otherDirective, p.skipLine)

/-- Reads a directive with the line that it stands on. -/
def takeDirective (p : Cursor) : Option (Token × Cursor) := do
  let name := (p.rest.drop 1).takeWhile isNameChar
  let p := p.skip (name.length + 1)
  if name.isEmpty ∨ !endsField p.rest then none
  let (token, p) ← takeDirectiveValue (String.ofList name) p
  let p := p.skipComment
  if !endsLine p.rest then none
  return (token, (p.takeBreak?.map (·.2)).getD p)

end TableTalk.Yaml

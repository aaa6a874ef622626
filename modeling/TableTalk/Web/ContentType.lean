import TableTalk.Charset.Basic
import TableTalk.Text.Blank
import TableTalk.Text.Lower
import TableTalk.Text.Percent
import TableTalk.Text.Search

/-!
# Content types

A content type is a kind and, behind semicolons, parameters. A value may be quoted. It may also be
given in numbered parts, `name*0=…; name*1=…`, and a star at the end of a name says that the value
is percent-encoded and starts with the character set and the language of what follows.
`charsetLabel?` reads the label of the character set.
-/

namespace TableTalk.Web.ContentType

open Text

/-- The text cut at the semicolons outside quotes; a quote behind a backslash is none. -/
def pieces (quoted escaped : Bool) : List Char → List (List Char)
  | [] => [[]]
  | c :: rest =>
    if c = ';' ∧ !quoted then [] :: pieces false false rest
    else
      let quoted := if c = '"' ∧ !escaped then !quoted else quoted
      match pieces quoted (c = '\\') rest with
      | [] => [[c]]
      | piece :: more => (c :: piece) :: more

def parameter (piece : List Char) : List Char × List Char :=
  match cutAt? ['='] piece with
  | some (name, value) => (lowerChars (trimChars name), trimChars value)
  | none => (lowerChars (trimChars piece), [])

/-- The text with each occurrence of a pair of characters made one character. -/
def mergePairs (a b merged : Char) : List Char → List Char
  | c :: d :: rest =>
    if c = a ∧ d = b then merged :: mergePairs a b merged rest
    else c :: mergePairs a b merged (d :: rest)
  | cs => cs

/-- A value without its quotes or angle brackets. -/
def unquote (cs : List Char) : List Char :=
  match cs, cs.getLast? with
  | '"' :: inner@(_ :: _), some '"' =>
    mergePairs '\\' '"' '"' (mergePairs '\\' '\\' '\\' inner.dropLast)
  | '<' :: inner@(_ :: _), some '>' => inner.dropLast
  | _, _ => cs

/-- A part of a value: its number, if it has one, and whether it is percent-encoded. -/
structure Part where
  number : Option Nat
  value : List Char
  encoded : Bool

/-- The name in front of a star, and what a name says of a part of a value behind it. -/
def starred? (name value : List Char) : Option (List Char × Part) := do
  let (base, mark) ← cutAt? ['*'] name
  if base.isEmpty ∨ !base.all isWordChar then none
  else
    let (digits, after) := (mark.takeWhile Char.isDigit, mark.dropWhile Char.isDigit)
    if mark.isEmpty then return (base, ⟨none, value, true⟩)
    else if digits.isEmpty then none
    else if after.isEmpty then return (base, ⟨some (numeral digits), value, false⟩)
    else if after = ['*'] then return (base, ⟨some (numeral digits), value, true⟩)
    else none
where
  isWordChar (c : Char) : Bool := c.isAlphanum || c == '_'

/-- The order of parts: by number, then by value, those that are not encoded first. -/
def Part.le (p q : Part) : Bool :=
  if p.number = q.number then
    if p.value = q.value then !p.encoded || q.encoded
    else String.ofList p.value < String.ofList q.value
  else p.number.getD 0 < q.number.getD 0

/-- The characters that percent escapes stand for, a byte each. -/
def unescape : List Char → List Char
  | '%' :: a :: b :: rest =>
    match hexValue? a, hexValue? b with
    | some high, some low => Char.ofNat (16 * high + low) :: unescape rest
    | _, _ => '%' :: unescape (a :: b :: rest)
  | c :: rest => c :: unescape rest
  | [] => []

/-- A value in its own character set, or as it stands if it cannot be read in that. -/
def inCharset (label value : List Char) : List Char :=
  let decoded : Option (List Char) := do
    let bytes ← value.mapM fun (c : Char) =>
      if c.toNat < 0x100 then some (UInt8.ofNat c.toNat) else none
    let charset ← Charset.find? (String.ofList (if label.isEmpty then "ascii".toList else label))
    let cs ← (charset.decode bytes).toOption
    if cs.contains '\uFFFD' then none else some cs
  decoded.getD value

/-- The value of several parts. -/
def joinParts (parts : List Part) : List Char :=
  let whole := (parts.mergeSort Part.le).flatMap fun p =>
    if p.encoded then unescape p.value else p.value
  if parts.any (·.encoded) then
    match splitOn '\'' whole with
    | label :: _ :: value :: more => inCharset label ((value :: more).intersperse ['\'']).flatten
    | _ => inCharset [] whole
  else whole

/-- Whether the parts of every name can be put in order: either all have numbers or none. -/
def areSortable (parts : List (List Char × Part)) : Bool :=
  parts.all fun (name, p) => parts.all fun (other, q) =>
    name != other || p.number.isSome == q.number.isSome

/-- The value of a name among plain parameters, or else among those that come in parts. -/
def value? (plain : List (List Char × List Char)) (starred : List (List Char × Part))
    (name : List Char) : Option (List Char) :=
  match plain.lookup name with
  | some value => some (unquote value)
  | none =>
    let parts := starred.filterMap fun (other, part) => if other = name then some part else none
    if parts.isEmpty then none else some (joinParts parts)

/-- The label of the character set in a content type, `none` inside if there is no usable one. Parts
that cannot be put in order make the whole unreadable. -/
def charsetLabel? (text : String) : Option (Option String) :=
  match (pieces false false text.toList).map parameter with
  | [] => some none
  | first :: others =>
    let star? (p : List Char × List Char) := starred? p.1 (unquote p.2)
    let starred := others.filterMap star?
    let plain := first :: others.filter fun p => (star? p).isNone
    if areSortable starred then some ((value? plain starred "charset".toList).bind label?) else none
where
  label? (cs : List Char) : Option String :=
    if cs.all (·.toNat < 0x80) then some (lower (String.ofList cs)) else none

end TableTalk.Web.ContentType

import TableTalk.Text.Composed
import TableTalk.Text.Punycode
import TableTalk.Web.DomainName.Context
import TableTalk.Web.DomainName.Direction
import TableTalk.Web.DomainName.Letter

/-!
# Domain names

A domain name is a row of labels with dots between them. On the wire it is in ASCII: a label beyond
ASCII is written in Punycode behind the mark `xn--`. `toWire` writes a name so, `check` tells
whether one on the wire can be read back. Labels are in composed form and hold no characters but
those that may stand in a name.
-/

namespace TableTalk.Web.DomainName

open Text

/-- Why a label cannot stand in a name. -/
inductive LabelFault where
  /-- It is empty or too long, has a hyphen in the wrong place or is not in its normal form. -/
  | malformed
  /-- It holds a character that stands in no name. -/
  | character
  /-- It holds a character without the context that it needs. -/
  | context
  /-- Its characters run in both directions. -/
  | direction
  deriving DecidableEq, Repr

/-- The characters that separate labels. -/
def isDot (c : Char) : Bool :=
  c = '.' || c = '\u3002' || c = '\uff0e' || c = '\uff61'

/-- The mark of a label in Punycode. -/
def wireMark : List Char := ['x', 'n', '-', '-']

def longestLabel : Nat := 63

/-- The length of the longest name, less the dot that it may end in. -/
def longestName : Nat := 253

/-- Refuses characters that may not stand where they stand; `before` holds those before, the last
one first. -/
def checkCharacters (before : List Char) : List Char → Except LabelFault Unit
  | [] => .ok ()
  | c :: rest => do
    if !isPermitted c then
      if !needsContext c then throw .character
      if !hasContext before c rest then throw .context
    checkCharacters (c :: before) rest

def checkLabel (label : List Char) : Except LabelFault Unit := do
  if longestName + 1 < label.length then throw .malformed
  match label with
  | [] => throw .malformed
  | c :: _ => if isMark c || !isComposed label then throw .malformed
  if (label.drop 2).take 2 == ['-', '-'] then throw .malformed
  if label.head? == some '-' || label.getLast? == some '-' then throw .malformed
  checkCharacters [] label
  if !isDirected label then throw .direction

/-- The label that stands behind the mark for Punycode. -/
def readPunycode (cs : List Char) : Except LabelFault (List Char) :=
  let basic := ((cs.reverse.dropWhile (· ≠ '-')).drop 1).reverse
  let extended := (cs.reverse.takeWhile (· ≠ '-')).reverse
  if extended.isEmpty then .error .malformed
  else
    match Punycode.insertAll true Punycode.firstBias Punycode.firstPoint 0 basic extended with
    | some label => .ok label
    | none => .error .malformed

/-- Refuses what is no label on the wire. -/
def checkWireLabel (label : List Char) : Except LabelFault Unit :=
  match dropStart? wireMark label with
  | some rest => (readPunycode rest).bind checkLabel
  | none => checkLabel label

def labelToWire (label : List Char) : Except LabelFault (List Char) := do
  let wire ←
    if label.all fun c => c.toNat < 128 then do
      checkWireLabel (label.map Char.toLower)
      pure label
    else do
      checkLabel label
      pure (wireMark ++ Punycode.encode label)
  if longestLabel < wire.length then throw .malformed
  return wire

/-- The labels of a name, and whether a dot follows the last one. -/
def labels (name : List Char) : List (List Char) × Bool :=
  let all := splitOn '.' (name.map fun c => if isDot c then '.' else c)
  if all.getLast? == some [] then (all.dropLast, true) else (all, false)

def toWire (name : List Char) : Except LabelFault String := do
  if longestName + 1 < name.length then throw .malformed
  let (all, dotted) := labels name
  if all.isEmpty then throw .malformed
  let wire ← all.mapM labelToWire
  let text := join "." (wire.map String.ofList) ++ (if dotted then "." else "")
  if longestName + (if dotted then 1 else 0) < text.length then throw .malformed
  return text

/-- Refuses a name on the wire that cannot be read back. -/
def check (name : List Char) : Except LabelFault Unit := do
  if longestName + 1 < name.length then throw .malformed
  let (all, _) := labels name
  if all.isEmpty then throw .malformed
  all.forM fun label => checkWireLabel (label.map Char.toLower)

end TableTalk.Web.DomainName

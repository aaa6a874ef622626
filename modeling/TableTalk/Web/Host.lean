import TableTalk.Text.Percent
import TableTalk.Web.DomainName.Basic

/-!
# Hosts

The host of a web address is a number in one of two forms, four decimal bytes with dots or eight
hexadecimal groups in brackets, or a name. `hostOf` is the normal form of a host: names in lower
case and in the form for the wire.
-/

namespace TableTalk.Web

open Text

inductive HostFault where
  | badBytes
  | badGroups
  | badName (fault : DomainName.LabelFault)
  deriving DecidableEq, Repr

/-- One of the four bytes, written without zeros in front. -/
def isByteNumeral (cs : List Char) : Bool :=
  match cs with
  | [] => false
  | ['0'] => true
  | '0' :: _ => false
  | _ => cs.length ≤ 3 && cs.all Char.isDigit && numeral cs < 256

/-- Four bytes with dots between them. -/
def isByteRow (cs : List Char) : Bool :=
  (splitOn '.' cs).length = 4 && (splitOn '.' cs).all isByteNumeral

/-- Whether a row of digits goes on to the end of the text, after `more` single characters that a
digit follows each. -/
def endsInRows : (more : Nat) → List Char → Bool
  | 0, cs => cs.all Char.isDigit
  | more + 1, c :: d :: rest =>
    (d.isDigit && endsInRows more rest) || (c.isDigit && endsInRows (more + 1) (d :: rest))
  | _ + 1, _ => false

/-- Whether a text is four rows of digits with any one character between neighbours, and so has to
be four bytes. -/
def looksLikeBytes : List Char → Bool
  | [] => false
  | c :: rest => c.isDigit && endsInRows 3 rest

/-- A group of up to four hexadecimal digits. -/
def isGroup (cs : List Char) : Bool :=
  !cs.isEmpty && cs.length ≤ 4 && cs.all fun c => (hexValue? c).isSome

/-- The number of groups that a text stands for, if it is groups with colons between them; the last
two may be written as four bytes. -/
def groupCount? (cs : List Char) : Option Nat :=
  let groups := splitOn ':' cs
  if cs.isEmpty then some 0
  else if groups.all isGroup then some groups.length
  else if groups.dropLast.all isGroup && (groups.getLast?.any isByteRow) then
    some (groups.length + 1)
  else none

/-- Eight groups, some of which two colons in a row may stand for. -/
def isGroupRow (cs : List Char) : Bool :=
  match cutAt? [':', ':'] cs with
  | none => groupCount? cs = some 8
  | some (before, after) =>
    (before.isEmpty || (splitOn ':' before).all isGroup)
      && ((groupCount? after).any fun n => groupTotal before + n < 8)
where
  groupTotal (cs : List Char) : Nat := if cs.isEmpty then 0 else (splitOn ':' cs).length

/-- Groups that the name of a zone may follow after a percent sign. -/
def isZonedRow (cs : List Char) : Bool :=
  match cutAt? ['%'] cs with
  | none => isGroupRow cs
  | some (row, zone) => isGroupRow row && !zone.isEmpty && !zone.contains '%'

/-- The visible characters that are percent-encoded in a name. -/
def hostStops : List Char := ['#', '/', ':', '<', '>', '?', '@', '[', ']', '^']

/-- The normal form of a host; brackets around groups are left out. -/
def hostOf (cs : List Char) : Except HostFault String :=
  let inner := (cs.drop 1).dropLast
  if looksLikeBytes cs then
    if isByteRow cs then .ok (String.ofList cs) else .error .badBytes
  else if cs.head? = some '[' ∧ 2 ≤ cs.length ∧ cs.getLast? = some ']' then
    if isZonedRow inner then .ok (String.ofList inner) else .error .badGroups
  else if cs.all fun c => c.toNat < 128 then
    .ok (percentEncode hostStops (String.ofList (cs.map Char.toLower)))
  else (DomainName.toWire (lowerChars cs)).mapError .badName

end TableTalk.Web

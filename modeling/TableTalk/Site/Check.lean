import TableTalk.Failure
import TableTalk.Json.Encoded
import TableTalk.Json.Reader
import TableTalk.Site.Request

/-!
# Checking requests

What a request carries is checked before anything is done. A body must be a record with a text of at
least one character under a name; fields of the query must be whole numbers within bounds. All that
is wrong is told at once.
-/

namespace TableTalk.Site

open Text

inductive Fault where
  | missing
  | notText
  | tooShort
  | notRecord
  | malformed
  | notWhole
  /-- A number is written with too many characters to be read. -/
  | tooLong
  | tooSmall
  | tooLarge
  deriving DecidableEq, Repr

namespace Fault

def name : Fault → String
  | missing => "missing"
  | notText => "string_type"
  | tooShort => "string_too_short"
  | notRecord => "model_attributes_type"
  | malformed => "json_invalid"
  | notWhole => "int_parsing"
  | tooLong => "int_parsing_size"
  | tooSmall => "greater_than_equal"
  | tooLarge => "less_than_equal"

end Fault

/-- Where in a request something is wrong. -/
inductive Place where
  | body
  | bodyAt (offset : Nat)
  | bodyField (name : String)
  | query (name : String)
  deriving DecidableEq, Repr

structure Complaint where
  fault : Fault
  place : Place
  deriving DecidableEq, Repr

inductive Refusal where
  | complaints (all : List Complaint)
  /-- The body cannot be read at all. -/
  | unreadableBody
  deriving DecidableEq, Repr

namespace Request

/-- The data in the body; null is as good as none. -/
def data (r : Request) : Except Refusal (Option Json) :=
  if r.body.isEmpty then .ok none
  else if !r.isJson then .error (.complaints [⟨.notRecord, .body⟩])
  else
    match Json.decode? (encodeUtf8 r.body.toList) with
    | none => .error .unreadableBody
    | some cs =>
      if Json.isTooDeep cs then .error .unreadableBody
      else
        match Json.parseChars cs with
        | .ok .null => .ok none
        | .ok j => .ok (some j)
        | .error (.malformed left) =>
          .error (.complaints [⟨.malformed, .bodyAt (cs.length - left)⟩])
        | .error (.hugeInteger _) => .error .unreadableBody

def bodyText (r : Request) (name : String) : Except Refusal String := do
  let complain (fault : Fault) (place : Place) : Except Refusal String :=
    .error (.complaints [⟨fault, place⟩])
  match ← r.data with
  | none => complain .missing .body
  | some (.record fields) =>
    match fields.lookup name with
    | none => complain .missing (.bodyField name)
    | some (.text s) => if s.isEmpty then complain .tooShort (.bodyField name) else return s
    | some _ => complain .notText (.bodyField name)
  | some _ => complain .notRecord .body

end Request

/-- Unicode white space. -/
def isSpace (c : Char) : Bool := isBlank c && !(28 ≤ c.toNat && c.toNat ≤ 31)

def trimSpace (cs : List Char) : List Char :=
  ((cs.dropWhile isSpace).reverse.dropWhile isSpace).reverse

/-- The number without zeros and underscores at its front, of which one zero stays where nothing
else would be left in front of the point. -/
def dropZeros? (cs : List Char) : Option (List Char) :=
  match cs with
  | '0' :: rest =>
    match rest.dropWhile fun c => c = '0' || c = '_' with
    | [] => some [cs.getLast?.getD '0']
    | c :: more =>
      if c = '.' then some ('0' :: c :: more) else if c.isDigit then some (c :: more) else none
  | c :: _ => if c.isDigit ∨ c = '-' then some cs else none
  | [] => none

/-- The number without a fraction that is all zeros. -/
def dropZeroFraction (cs : List Char) : List Char :=
  match cutAt? ['.'] cs with
  | some (whole, fraction) => if fraction.all (· = '0') then whole else cs
  | none => cs

/-- The number without underscores, which must stand one at a time and not at the ends. -/
def dropBars? (cs : List Char) : Option (List Char) :=
  if cs.head? = some '_' ∨ cs.getLast? = some '_' ∨ occurs ['_', '_'] cs then none
  else some (cs.filter (· ≠ '_'))

/-- The most characters of a number in a query. -/
def numberLength : Nat := 4300

/-- The whole number that a field of a query stands for. A fraction of zeros is passed over. -/
def readNumber? (cs : List Char) : Option Int := do
  let cs := if cs.head? = some '+' then cs.drop 1 else cs
  let cs ← dropBars? (dropZeroFraction (← dropZeros? cs))
  let digits := if cs.head? = some '-' then cs.drop 1 else cs
  if digits.isEmpty ∨ !digits.all Char.isDigit then none
  return if cs.head? = some '-' then -(numeral digits : Int) else numeral digits

/-- A whole number in the query and what is wrong with it. -/
def checkNumber (r : Request) (name : String) (default least : Int) (most : Option Int) :
    Int × List Complaint :=
  let complain (fault : Fault) : List Complaint := [⟨fault, .query name⟩]
  match r.field? name with
  | none => (default, [])
  | some s =>
    let cs := trimSpace s.toList
    if numberLength < cs.length then (default, complain .tooLong)
    else
      match readNumber? cs with
      | none => (default, complain .notWhole)
      | some n =>
        if n < least then (n, complain .tooSmall)
        else if most.any (· < n) then (n, complain .tooLarge)
        else (n, [])

def pageOf (r : Request) : Except Refusal (Int × Int) :=
  let (offset, first) := checkNumber r "offset" 0 0 none
  let (limit, second) := checkNumber r "limit" 25 1 (some 100)
  if first ++ second = [] then .ok (offset, limit) else .error (.complaints (first ++ second))

end TableTalk.Site

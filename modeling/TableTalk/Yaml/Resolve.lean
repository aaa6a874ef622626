import TableTalk.Text.Search
import TableTalk.Yaml.Tag

/-!
# What a plain scalar stands for

A plain scalar is read as a truth value, a number, a date, nothing or a text by its form alone. The
forms: the words for yes and no, decimals with a point, whole numbers to the bases two, eight, ten,
sixteen and sixty, dates with or without a time, and the words for nothing.
-/

namespace TableTalk.Yaml

open Text

/-- A word in lower case, capitalised or in upper case. -/
def caseForms (word : String) : List String :=
  [word, word.capitalize, String.ofList (word.toList.map Char.toUpper)]

def yesWords : List String := ["yes", "true", "on"].flatMap caseForms

def noWords : List String := ["no", "false", "off"].flatMap caseForms

def nullWords : List String := ["", "~"] ++ caseForms "null"

/-- The text without a sign at its front. -/
def dropSign : List Char → List Char
  | '-' :: rest => rest
  | '+' :: rest => rest
  | cs => cs

def isDigitOrBar (c : Char) : Bool := c.isDigit || c = '_'

/-- A digit, and then digits and underscores, at the front; and what follows them. -/
def takeGrouped? : List Char → Option (List Char)
  | c :: rest => if c.isDigit then some (rest.dropWhile isDigitOrBar) else none
  | [] => none

/-- Whether the text is a signed exponent or empty. -/
def isExponent : List Char → Bool
  | [] => true
  | e :: sign :: digits =>
    (e = 'e' || e = 'E') && (sign = '-' || sign = '+') && !digits.isEmpty
      && digits.all Char.isDigit
  | _ => false

/-- A number below sixty after a colon, and what follows it. -/
def takeSixtieth? : List Char → Option (List Char)
  | ':' :: a :: b :: rest =>
    if a.isDigit ∧ a ≤ '5' ∧ b.isDigit then some rest
    else if a.isDigit then some (b :: rest) else none
  | [':', a] => if a.isDigit then some [] else none
  | _ => none

/-- What follows the sixtieths at the front, and whether there are any. -/
def dropSixtieths : (fuel : Nat) → List Char → Bool × List Char
  | 0, cs => (false, cs)
  | fuel + 1, cs =>
    match takeSixtieth? cs with
    | none => (false, cs)
    | some rest => (true, (dropSixtieths fuel rest).2)

def isFloat (cs : List Char) : Bool :=
  let body := dropSign cs
  let decimal :=
    match takeGrouped? body with
    | some ('.' :: rest) => isExponent (rest.dropWhile isDigitOrBar)
    | _ => false
  let pointFirst :=
    match cs with
    | '.' :: rest => ((takeGrouped? rest).map isExponent).getD false
    | _ => false
  let sexagesimal :=
    match (takeGrouped? body).map fun rest => dropSixtieths rest.length rest with
    | some (true, '.' :: rest) => rest.all isDigitOrBar
    | _ => false
  let infinite := [".inf", ".Inf", ".INF"].contains (String.ofList body)
  let nan := [".nan", ".NaN", ".NAN"].contains (String.ofList cs)
  decimal || pointFirst || sexagesimal || infinite || nan

def isHexOrBar (c : Char) : Bool :=
  c.isDigit || ('a' ≤ c && c ≤ 'f') || ('A' ≤ c && c ≤ 'F') || c = '_'

def isInt (cs : List Char) : Bool :=
  match dropSign cs with
  | '0' :: 'b' :: rest => !rest.isEmpty && rest.all fun c => c = '0' || c = '1' || c = '_'
  | '0' :: 'x' :: rest => !rest.isEmpty && rest.all isHexOrBar
  | '0' :: rest => rest.all fun c => ('0' ≤ c && c ≤ '7') || c = '_'
  | c :: rest =>
    c.isDigit &&
      let tail := rest.dropWhile isDigitOrBar
      (dropSixtieths tail.length tail).2.isEmpty
  | [] => false

/-- What follows one or two digits at the front. -/
def dropTwo? : List Char → Option (List Char)
  | a :: b :: rest => if a.isDigit then some (if b.isDigit then rest else b :: rest) else none
  | [a] => if a.isDigit then some [] else none
  | [] => none

/-- What follows exactly `count` digits at the front. -/
def dropDigits? (count : Nat) (cs : List Char) : Option (List Char) :=
  if (cs.take count).length = count ∧ (cs.take count).all Char.isDigit then some (cs.drop count)
  else none

/-- Whether the text is the distance of a clock from Greenwich or empty. -/
def isZone (cs : List Char) : Bool :=
  match cs.dropWhile fun c => c = ' ' || c = '\t' with
  | [] => cs.isEmpty
  | ['Z'] => true
  | sign :: rest =>
    (sign = '-' || sign = '+') &&
      match dropTwo? rest with
      | some [] => true
      | some (':' :: minutes) => dropDigits? 2 minutes = some []
      | _ => false

def isTime (cs : List Char) : Bool :=
  match (dropTwo? cs).bind (dropStart? [':']) |>.bind (dropDigits? 2)
      |>.bind (dropStart? [':']) |>.bind (dropDigits? 2) with
  | none => false
  | some ('.' :: rest) => isZone (rest.dropWhile Char.isDigit)
  | some rest => isZone rest

/-- Whether the text is a date, perhaps with a time after a letter or white space. In a date alone
the month and the day have two digits, or one if it may be `short`. -/
def isMoment (short : Bool) (cs : List Char) : Bool :=
  match (dropDigits? 4 cs).bind (dropStart? ['-']) with
  | none => false
  | some rest =>
    let two := if short then dropTwo? else dropDigits? 2
    let plainDate := ((two rest).bind (dropStart? ['-']) |>.bind two) = some []
    let withTime :=
      match (dropTwo? rest).bind (dropStart? ['-']) |>.bind dropTwo? with
      | some (c :: rest) =>
        if c = 'T' ∨ c = 't' then isTime rest
        else if c = ' ' ∨ c = '\t' then isTime (rest.dropWhile fun c => c = ' ' || c = '\t')
        else false
      | _ => false
    plainDate || withTime

/-- The text without the line break that it may end in. -/
def dropLastBreak (cs : List Char) : List Char :=
  if cs.getLast? = some '\n' then cs.dropLast else cs

/-- The tag that a plain scalar has by its form. A line break at its end is no part of the form,
unless it is all there is. -/
def resolve (s : String) : Tag :=
  let cs := if s = "\n" then ['\n'] else dropLastBreak s.toList
  let s := String.ofList cs
  if yesWords.contains s ∨ noWords.contains s then .bool
  else if isFloat cs then .float
  else if isInt cs then .int
  else if s = "<<" then .merge
  else if nullWords.contains s then .null
  else if isMoment false cs then .moment
  else if s = "=" then .proper
  else if ["!", "&", "*"].contains s then .unknown (Tag.standardStart ++ "yaml")
  else .text

end TableTalk.Yaml

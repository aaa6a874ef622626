import TableTalk.Charset.Grid.Gb2312
import TableTalk.Charset.Grid.KsX1001
import TableTalk.Charset.Japanese
import TableTalk.Charset.Page

/-!
# Character sets with escape sequences

In the family of ISO 2022 an escape sequence designates a set of characters to a place, G0, G1 or
G2. The bytes from 0x21 to 0x7E stand for characters of the set at G0, after a shift for those at
G1, and a single one behind `ESC N` for one at G2. What an encoding admits is its `Escapes`.
-/

namespace TableTalk.Charset

inductive Designated where
  | ascii
  | latin
  | greek
  | roman
  | katakana
  | oldJapanese
  | chinese
  | japanese
  | korean
  | rareJapanese
  | jisX0213 (edition : Edition)
  | secondPlane
  deriving DecidableEq

namespace Designated

/-- The set of single bytes that a final byte names. -/
def single? : Char → Option Designated
  | 'A' => some latin
  | 'B' => some ascii
  | 'F' => some greek
  | 'I' => some katakana
  | 'J' => some roman
  | _ => none

/-- The set of pairs of bytes that a final byte names. -/
def double? : Char → Option Designated
  | '@' => some oldJapanese
  | 'A' => some chinese
  | 'B' => some japanese
  | 'C' => some korean
  | 'D' => some rareJapanese
  | 'O' => some (jisX0213 .first)
  | 'P' => some secondPlane
  | 'Q' => some (jisX0213 .second)
  | _ => none

/-- What stands in the set for a byte and those behind it. The sets of JIS X 0213 have a tilde in
the cell of its full-width form. -/
def read (d : Designated) : Step := fun a rest =>
  match d with
  | ascii => .ascii a
  | latin | greek => .invalid 0
  | roman => .chars [romanJapanese a] 0
  | katakana => .ofChar? 0 (katakana? (a + 0x80))
  | oldJapanese | japanese => pair (fun b => (cell? jisX0208Rows 0x21 a b).map ([·])) rest
  | chinese => pair (fun b => (cell? gb2312Rows 0x21 a b).map ([·])) rest
  | korean => pair (fun b => (cell? ksX1001Rows 0x21 a b).map ([·])) rest
  | rareJapanese => pair (fun b => (cell? jisX0212Rows 0x21 a b).map ([·])) rest
  | jisX0213 edition => pair (fun b => plane (tilded edition) a b) rest
  | secondPlane => pair (fun b => plane (secondPlane? .second) a b) rest
where
  pair (chars? : Nat → Option (List Char)) : List Nat → Reading
    | [] => .cut
    | b :: _ =>
      match chars? b with
      | some cs => .chars cs 1
      | none => .invalid 1
  plane (chars? : Nat → Nat → Option (List Char)) (a b : Nat) : Option (List Char) :=
    if a < 0x21 ∨ b < 0x21 then none else chars? (a - 0x20) (b - 0x20)
  tilded (edition : Edition) (row place : Nat) : Option (List Char) :=
    if row = 2 ∧ place = 18 then some ['~'] else firstPlane? edition row place

end Designated

/-- What an encoding of the family admits: its sets beside ASCII, shifts to G1 or else escapes with
a mark of revision, and single characters from G2. -/
structure Escapes where
  sets : List Designated
  shifts : Bool
  revisions : Bool
  singles : Bool

/-- The sets at the three places, whether G1 is shifted to, and whether an escape sequence of
another kind goes on. -/
structure EscapeState where
  first : Designated
  second : Designated
  third : Designated
  shifted : Bool
  passing : Bool

def EscapeState.initial : EscapeState := ⟨.ascii, .ascii, .ascii, false, false⟩

def escapeByte : Nat := 0x1B

/-- Whether a byte ends an escape sequence. -/
def endsEscape (b : Nat) : Bool :=
  0x40 ≤ b && b ≤ 0x5A

/-- The bytes of an escape sequence, if it ends where it should. -/
inductive EscapeExtent where
  | bytes (count : Nat)
  | cut
  | tooLong

/-- The extent of an escape sequence of which `i` bytes are read. -/
def escapeExtent (revisions : Bool) (i : Nat) (bytes : List Nat) : EscapeExtent :=
  if 16 ≤ i then .tooLong
  else
    match bytes with
    | [] => .cut
    | b :: rest =>
      if endsEscape b then .bytes (i + 1)
      else if revisions && b = '&'.toNat && rest.head? = some '@'.toNat then
        escapeExtent revisions (i + 3) (rest.drop 2)
      else escapeExtent revisions (i + 1) rest
termination_by bytes.length
decreasing_by all_goals simp only [List.length_drop, List.length_cons]; omega

def designate? (e : Escapes) (s : EscapeState) (sequence : List Nat) : Option EscapeState := do
  let admitted (d : Option Designated) : Option Designated :=
    d.filter fun d => d = .ascii || e.sets.contains d
  match sequence.map Char.ofNat with
  | ['$', c] => return { s with first := ← admitted (Designated.double? c) }
  | ['(', c] => return { s with first := ← admitted (Designated.single? c) }
  | [')', c] => return { s with second := ← admitted (Designated.single? c) }
  | ['.', c] =>
    if e.singles then return { s with third := ← admitted (Designated.single? c) } else none
  | ['$', '(', c] => return { s with first := ← admitted (Designated.double? c) }
  | ['$', ')', c] => return { s with second := ← admitted (Designated.double? c) }
  | [_, _, '\x1b', '$', 'B'] => if e.revisions then return { s with first := .japanese } else none
  | _ => none

/-- The character of a single byte at G2. -/
def thirdChar? (d : Designated) (b : Nat) : Option Char :=
  match d with
  | .latin => if b < 0x80 then some (Char.ofNat (b + 0x80)) else none
  | .greek =>
    let code := if b < 0x80 then b + 0x80 else b - 0x80
    if code < 0xA0 then some (Char.ofNat code)
    else if [0xA4, 0xA5, 0xAA].contains code then none
    else (isoPages.lookup "iso8859_7").bind fun page => place? page (code - 0xA0)
  | _ => if b < 0x80 then some (Char.ofNat b) else none

/-- A step behind an escape byte. -/
def escapeStep (e : Escapes) (s : EscapeState) (rest : List Nat) : EscapeState × Reading :=
  match rest with
  | [] => (s, .cut)
  | b :: more =>
    if ['(', ')', '$', '.', '&'].contains (Char.ofNat b) then
      match escapeExtent e.revisions 1 rest with
      | .cut => (s, .cut)
      | .tooLong => (s, .invalid 0)
      | .bytes count =>
        match designate? e s (rest.take (count - 1)) with
        | some s => (s, .chars [] (count - 1))
        | none => (s, .invalid (count - 1))
    else if e.singles && b = 'N'.toNat then
      match more with
      | [] => (s, .cut)
      | c :: _ =>
        match thirdChar? s.third c with
        | some c => (s, .chars [c] 2)
        | none => (s, .invalid 2)
    else ({ s with passing := true }, .ascii escapeByte)

def escapedStep (e : Escapes) (s : EscapeState) (b : Nat) (rest : List Nat) : EscapeState × Reading :=
  if s.passing then ({ s with passing := !endsEscape b }, .ascii b)
  else if b = escapeByte then escapeStep e s rest
  else if e.shifts && b = 0x0F then ({ s with shifted := false }, .chars [] 0)
  else if e.shifts && b = 0x0E then ({ s with shifted := true }, .chars [] 0)
  else if b = 0x0A then ({ s with shifted := false }, .ascii b)
  else if b < 0x20 then (s, .ascii b)
  else if 0x80 ≤ b then (s, .invalid 0)
  else (s, (if s.shifted then s.second else s.first).read b rest)

/-- The encodings of the family, by name. -/
def escapedSets : List (String × Escapes) :=
  [("iso2022_kr", ⟨[.korean], true, false, false⟩),
    ("iso2022_jp", ⟨[.japanese, .roman, .oldJapanese], false, true, false⟩),
    ("iso2022_jp_1", ⟨[.japanese, .rareJapanese, .roman, .oldJapanese], false, true, false⟩),
    ("iso2022_jp_2",
      ⟨[.japanese, .rareJapanese, .korean, .chinese, .roman, .oldJapanese, .latin, .greek],
        false, true, true⟩),
    ("iso2022_jp_3", ⟨[.japanese, .jisX0213 .first, .secondPlane], false, true, false⟩),
    ("iso2022_jp_2004", ⟨[.japanese, .jisX0213 .second, .secondPlane], false, true, false⟩),
    ("iso2022_jp_ext",
      ⟨[.japanese, .rareJapanese, .roman, .katakana, .oldJapanese], false, true, false⟩)]

end TableTalk.Charset

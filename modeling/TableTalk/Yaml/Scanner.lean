import TableTalk.Yaml.BlockText
import TableTalk.Yaml.Mark
import TableTalk.Yaml.Plain

/-!
# The tokens of a text

`tokens?` cuts a text into tokens. Indentation opens and closes block collections. Whether a node is
a key shows only when a colon follows it on the same line, so the places where a key may have
started are kept as candidates, one for every depth of flow collections, until the colon comes or
the candidate is out of reach.
-/

namespace TableTalk.Yaml

/-- A place where a key may have started. -/
structure Candidate where
  /-- The number of tokens before it. -/
  token : Nat
  /-- Whether nothing but a key can start there. -/
  required : Bool
  index : Nat
  line : Nat
  column : Nat
  deriving DecidableEq, Repr, Inhabited

structure Scanner where
  place : Cursor
  /-- The number of flow collections that are open. -/
  depth : Nat
  /-- The tokens so far, the latest first. -/
  latest : List Token
  /-- The number of tokens so far. -/
  count : Nat
  /-- The column of the innermost block collection, -1 outside all of them. -/
  indent : Int
  /-- The columns of the block collections around it. -/
  outer : List Int
  keyAllowed : Bool
  /-- For each depth the place where a key may have started. -/
  candidates : List (Nat × Candidate)
  finished : Bool
  deriving Inhabited

namespace Scanner

/-- The farthest that a colon may be from the start of its key. -/
def keyReach : Nat := 1024

def start (cs : List Char) : Scanner :=
  ⟨Cursor.start cs, 0, [], 0, -1, [], true, [], false⟩

def push (s : Scanner) (t : Token) : Scanner :=
  { s with latest := t :: s.latest, count := s.count + 1 }

/-- Adds a token in front of those after the first `before` ones. -/
def insert (s : Scanner) (before : Nat) (t : Token) : Scanner :=
  { s with latest := s.latest.insertIdx (s.count - before) t, count := s.count + 1 }

def tokens (s : Scanner) : List Token :=
  s.latest.reverse

/-- Adds a token and goes on after it. -/
def emit (s : Scanner) (t : Token) (after : Cursor) : Scanner :=
  { s.push t with place := after }

def allowKey (s : Scanner) (allowed : Bool) : Scanner :=
  { s with keyAllowed := allowed }

/-- Passes over spaces, comments and line breaks; a break allows a key in block context. -/
def toNextToken : (fuel : Nat) → Scanner → Scanner
  | 0, s => s
  | fuel + 1, s =>
    let p := s.place.skipComment
    match p.takeBreak? with
    | none => { s with place := p }
    | some (_, p) => toNextToken fuel { s with place := p, keyAllowed := s.keyAllowed || s.depth = 0 }

/-- Whether a candidate is on an earlier line or too far back. -/
def isStale (s : Scanner) (k : Candidate) : Bool :=
  k.line ≠ s.place.line || keyReach < s.place.index - k.index

/-- Drops the candidates that are out of reach. -/
def dropStale (s : Scanner) : Option Scanner :=
  if s.candidates.any fun (_, k) => s.isStale k && k.required then none
  else some { s with candidates := s.candidates.filter fun (_, k) => !s.isStale k }

/-- Drops the candidate at the present depth, which must not be required. -/
def dropCandidate (s : Scanner) : Option Scanner :=
  if ((s.candidates.lookup s.depth).map (·.required)).getD false then none
  else some { s with candidates := s.candidates.filter fun (d, _) => d ≠ s.depth }

/-- Keeps in mind that a key may start here. -/
def noteCandidate (s : Scanner) : Option Scanner :=
  if s.keyAllowed then do
    let s ← s.dropCandidate
    let p := s.place
    let required := s.depth = 0 ∧ s.indent = p.column
    let k : Candidate := ⟨s.count, required, p.index, p.line, p.column⟩
    return { s with candidates := (s.depth, k) :: s.candidates }
  else some s

/-- Closes block collections that are indented more than `column`. -/
def closeTo (column : Int) : (outer : List Int) → Scanner → Scanner
  | [], s => s
  | before :: outer, s =>
    if column < s.indent then
      closeTo column outer { s.push .blockEnd with indent := before, outer }
    else s

/-- Closes block collections, of which there are none inside a flow collection. -/
def unwind (column : Int) (s : Scanner) : Scanner :=
  if s.depth = 0 then closeTo column s.outer s else s

/-- Opens a block collection at a column if that is indented further; `before` is the number of
tokens in front of its first token. -/
def openBlock (s : Scanner) (column : Nat) (before : Nat) (t : Token) : Scanner :=
  if s.indent < column then
    { s.insert before t with outer := s.indent :: s.outer, indent := column }
  else s

def finish (s : Scanner) : Option Scanner := do
  let s ← (s.unwind (-1)).dropCandidate
  return { s.push .streamEnd with candidates := [], finished := true }

def directive (s : Scanner) : Option Scanner := do
  let s ← (s.unwind (-1)).dropCandidate
  let (t, after) ← takeDirective s.place
  return (s.emit t after).allowKey false

def documentMark (s : Scanner) (t : Token) : Option Scanner := do
  let s ← (s.unwind (-1)).dropCandidate
  return (s.emit t (s.place.skip 3)).allowKey false

def flowStart (s : Scanner) (t : Token) : Option Scanner := do
  let s ← s.noteCandidate
  return { (s.emit t s.place.step).allowKey true with depth := s.depth + 1 }

/-- Ends a flow collection; without one the mark does not fit any tokens that may follow. -/
def flowEnd (s : Scanner) (t : Token) : Option Scanner := do
  let s ← s.dropCandidate
  if s.depth = 0 then none
  return { (s.emit t s.place.step).allowKey false with depth := s.depth - 1 }

def flowEntry (s : Scanner) : Option Scanner := do
  let s ← s.dropCandidate
  return (s.emit .flowEntry s.place.step).allowKey true

def blockEntry (s : Scanner) : Option Scanner := do
  if s.depth = 0 ∧ !s.keyAllowed then none
  let s := if s.depth = 0 then s.openBlock s.place.column s.count .blockSequenceStart else s
  let s ← s.dropCandidate
  return (s.emit .blockEntry s.place.step).allowKey true

/-- A question mark that starts a key. -/
def explicitKey (s : Scanner) : Option Scanner := do
  if s.depth = 0 ∧ !s.keyAllowed then none
  let s := if s.depth = 0 then s.openBlock s.place.column s.count .blockMappingStart else s
  let s ← s.dropCandidate
  return (s.emit .key s.place.step).allowKey (s.depth = 0)

/-- A colon. It makes a key of what started at the candidate, if there is one. -/
def value (s : Scanner) : Option Scanner :=
  match s.candidates.lookup s.depth with
  | some k =>
    let s := { s.insert k.token .key with
      candidates := s.candidates.filter fun (d, _) => d ≠ s.depth }
    let s := if s.depth = 0 then s.openBlock k.column k.token .blockMappingStart else s
    some ((s.emit .value s.place.step).allowKey false)
  | none => do
    if s.depth = 0 ∧ !s.keyAllowed then none
    let s := if s.depth = 0 then s.openBlock s.place.column s.count .blockMappingStart else s
    let s ← s.dropCandidate
    return (s.emit .value s.place.step).allowKey (s.depth = 0)

/-- An anchor, an alias, a tag or a quoted scalar, which may start a key. -/
def keyPart (s : Scanner) (take : Cursor → Option (Token × Cursor)) : Option Scanner := do
  let s ← s.noteCandidate
  let (t, after) ← take s.place
  return (s.emit t after).allowKey false

def blockText (s : Scanner) (folded : Bool) : Option Scanner := do
  let s ← s.dropCandidate
  let (text, after) ← takeBlockText folded s.indent s.place
  return (s.emit (.scalar text false) after).allowKey true

def plain (s : Scanner) : Option Scanner := do
  let s ← s.noteCandidate
  let (text, broken, after) := takePlain (s.depth ≠ 0) (s.indent + 1) s.place
  return (s.emit (.scalar text true) after).allowKey broken

def quotation (quote : Char) (p : Cursor) : Option (Token × Cursor) :=
  (takeQuotation quote p).map fun (text, after) => (.scalar text false, after)

/-- Adds the token that starts with character `c`, which `rest` follows. -/
def tokenAt (s : Scanner) (c : Char) (rest : List Char) : Option Scanner :=
  let inFlow := s.depth ≠ 0
  let separates := s.place.column = 0 && atSeparator (c :: rest)
  if c = '%' ∧ s.place.column = 0 then s.directive
  else if separates ∧ c = '-' then s.documentMark .documentStart
  else if separates then s.documentMark .documentEnd
  else
    match c with
    | '[' => s.flowStart .flowSequenceStart
    | '{' => s.flowStart .flowMappingStart
    | ']' => s.flowEnd .flowSequenceEnd
    | '}' => s.flowEnd .flowMappingEnd
    | ',' => s.flowEntry
    | '*' => s.keyPart fun p => (takeName p).map fun (n, p) => (.alias n, p)
    | '&' => s.keyPart fun p => (takeName p).map fun (n, p) => (.anchor n, p)
    | '!' => s.keyPart takeTag
    | '\'' => s.keyPart (quotation '\'')
    | '"' => s.keyPart (quotation '"')
    | _ =>
      if c = '-' ∧ atGap rest then s.blockEntry
      else if c = '?' ∧ (inFlow ∨ atGap rest) then s.explicitKey
      else if c = ':' ∧ (inFlow ∨ atGap rest) then s.value
      else if c = '|' ∧ !inFlow then s.blockText false
      else if c = '>' ∧ !inFlow then s.blockText true
      else if startsPlain inFlow (c :: rest) then s.plain
      else none

/-- Adds the next token, where no more than `fuel` line breaks are left. -/
def next (fuel : Nat) (s : Scanner) : Option Scanner := do
  let s := s.toNextToken (fuel + 1)
  let s ← s.dropStale
  let s := s.unwind s.place.column
  match s.place.rest with
  | [] => s.finish
  | c :: rest => s.tokenAt c rest

/-- Adds all tokens, where no more than `fuel` characters are left. -/
def run : (fuel : Nat) → Scanner → Option Scanner
  | 0, s => some s
  | fuel + 1, s => if s.finished then some s else do run fuel (← s.next fuel)

end Scanner

/-- The characters that may stand in a document. -/
def isAllowed (c : Char) : Bool :=
  let n := c.toNat
  c = '\t' || c = '\n' || c = '\r' || (0x20 ≤ n && n ≤ 0x7E) || n = 0x85
    || (0xA0 ≤ n && n ≤ 0xFFFD) || 0x10000 ≤ n

/-- The tokens of a text. A byte-order mark at its start is passed over. -/
def tokens? (cs : List Char) : Option (List Token) := do
  if !cs.all isAllowed then none
  let cs := Text.unifyNewlines cs
  let cs := if cs.head? = some '\uFEFF' then cs.drop 1 else cs
  return (← (Scanner.start cs).run (cs.length + 2)).tokens

end TableTalk.Yaml

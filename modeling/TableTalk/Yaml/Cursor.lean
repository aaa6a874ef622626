/-!
# Places in a document

A `Cursor` is a place in a text: what is still to be read, how many characters were read, and the
line and column of the place. Reading goes forward only. Line feeds, next-line characters and the
two Unicode separators end a line; carriage returns are expected to be gone.
-/

namespace TableTalk.Yaml

def isBreak (c : Char) : Bool :=
  c = '\n' || c = '\x85' || c = '\u2028' || c = '\u2029'

/-- Whether the text is over or its line is. -/
def endsLine : List Char → Bool
  | [] => true
  | c :: _ => isBreak c

/-- Whether a space comes next or the line is over. -/
def endsField : List Char → Bool
  | [] => true
  | c :: _ => c = ' ' || isBreak c

/-- Whether white space comes next or the line is over. -/
def atGap : List Char → Bool
  | [] => true
  | c :: _ => c = ' ' || c = '\t' || isBreak c

/-- Whether the mark between documents comes next. -/
def atSeparator (cs : List Char) : Bool :=
  (cs.take 3 = ['-', '-', '-'] || cs.take 3 = ['.', '.', '.']) && atGap (cs.drop 3)

structure Cursor where
  rest : List Char
  index : Nat
  line : Nat
  column : Nat
  deriving DecidableEq, Repr, Inhabited

namespace Cursor

def start (cs : List Char) : Cursor := ⟨cs, 0, 0, 0⟩

/-- Passes over one character. A byte-order mark takes up no column. -/
def step (p : Cursor) : Cursor :=
  match p.rest with
  | [] => p
  | c :: rest =>
    if isBreak c then ⟨rest, p.index + 1, p.line + 1, 0⟩
    else ⟨rest, p.index + 1, p.line, if c = '\uFEFF' then p.column else p.column + 1⟩

def skip : (count : Nat) → Cursor → Cursor
  | 0, p => p
  | count + 1, p => skip count p.step

/-- Passes over the characters at the front that `q` accepts. -/
def skipWhile (q : Char → Bool) (p : Cursor) : Cursor :=
  p.skip (p.rest.takeWhile q).length

def skipSpaces (p : Cursor) : Cursor := p.skipWhile (· = ' ')

/-- Passes over the rest of the line but for what ends it. -/
def skipLine (p : Cursor) : Cursor := p.skipWhile fun c => !isBreak c

/-- Passes over spaces and a comment. -/
def skipComment (p : Cursor) : Cursor :=
  let p := p.skipSpaces
  if p.rest.head? = some '#' then p.skipLine else p

/-- The line break at the front, as the character that it stands for, and what follows it. -/
def takeBreak? (p : Cursor) : Option (Char × Cursor) :=
  match p.rest with
  | [] => none
  | c :: _ => if isBreak c then some (if c = '\x85' then '\n' else c, p.step) else none

end Cursor

end TableTalk.Yaml

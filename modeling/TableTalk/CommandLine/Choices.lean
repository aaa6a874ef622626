import TableTalk.CommandLine.Usage
import TableTalk.Text.Whole

/-!
# The choices made in a call

`choices` reads the words of a call from left to right into the operand and the values of the
options. A value is attached to its option or is the operand after it; of two values for one option
the later counts. Reading stops at the first mistake and where help is asked for; words that the
program has no use for are a mistake only once all others have been read.
-/

namespace TableTalk.CommandLine

open Text

inductive Setting where
  | on
  | text (s : String)
  | number (i : Int)
  deriving DecidableEq, Repr

structure Choices where
  operand : Option String
  /-- What the options are set to, the latest first. -/
  settings : List (String × Setting)
  /-- The words that the program has no use for. -/
  strays : List String
  deriving DecidableEq, Repr

/-- Why a call does not make the program work. -/
inductive Stop where
  | help
  | mistake (m : Mistake)
  deriving DecidableEq, Repr

namespace Choices

def empty : Choices := ⟨none, [], []⟩

def isOn (c : Choices) (name : String) : Bool :=
  c.settings.lookup name = some .on

def text? (c : Choices) (name : String) : Option String :=
  match c.settings.lookup name with
  | some (.text s) => some s
  | _ => none

def number? (c : Choices) (name : String) : Option Int :=
  match c.settings.lookup name with
  | some (.number i) => some i
  | _ => none

def set (c : Choices) (name : String) (s : Setting) : Choices :=
  { c with settings := (name, s) :: c.settings }

def stray (c : Choices) (word : String) : Choices :=
  { c with strays := c.strays ++ [word] }

end Choices

/-- What an option is set to by a value. -/
def settingOf (name : String) (kind : Kind) (value : String) : Except Stop Setting :=
  match kind with
  | .text => .ok (.text value)
  | .number =>
    match readLimited? value with
    | some i => .ok (.number i)
    | none => .error (.mistake (.notWhole name value))
  | _ => .error (.mistake (.valueRefused name value))

/-- What comes of further letters in a word that asks for help. -/
def afterHelp : List Char → Stop
  | [] => .help
  | 'h' :: rest => afterHelp rest
  | c :: rest =>
    if c = '=' then .mistake (.valueRefused "-h/--help" (String.ofList rest))
    else if c = '-' then .mistake (.valueRefused "-h/--help" (String.ofList (c :: rest)))
    else .help

namespace Usage

/-- Whether an operand is still wanted. -/
def isOpen (u : Usage) (c : Choices) : Bool :=
  u.operand && c.operand.isNone

/-- Adds pieces to the choices made before. `taken` tells whether the last piece was taken as the
operand: a divider is of use right after it, and before it. -/
def readPieces (u : Usage) (c : Choices) (taken : Bool) : List Piece → Except Stop Choices
  | [] => .ok c
  | .operand word :: rest =>
    if u.isOpen c then u.readPieces { c with operand := some word } true rest
    else u.readPieces (c.stray word) false rest
  | .divider :: rest =>
    if taken || (u.isOpen c && !rest.isEmpty) then u.readPieces c false rest
    else u.readPieces (c.stray "--") false rest
  | .unknown word :: rest => u.readPieces (c.stray word) false rest
  | .helpLetter more :: _ => .error (afterHelp more)
  | .option name kind (some value) :: rest => do
    let s ← settingOf name kind value
    u.readPieces (c.set name s) false rest
  | .option _ .help none :: _ => .error .help
  | .option name .switch none :: rest => u.readPieces (c.set name .on) false rest
  | .option name kind none :: .operand value :: rest => do
    let s ← settingOf name kind value
    u.readPieces (c.set name s) false rest
  | .option name _ none :: _ => .error (.mistake (.valueMissing name))

/-- The choices, if nothing is missing from them and nothing left over. -/
def finish (u : Usage) (c : Choices) : Except Stop Choices :=
  if u.isOpen c then .error (.mistake .operandMissing)
  else if c.strays.isEmpty then .ok c
  else .error (.mistake (.strayWords c.strays))

def choices (u : Usage) (words : List String) : Except Stop Choices :=
  match u.piecesOf words with
  | .error m => .error (.mistake m)
  | .ok pieces => (u.readPieces .empty false pieces).bind u.finish

end Usage

end TableTalk.CommandLine

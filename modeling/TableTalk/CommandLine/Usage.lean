import TableTalk.Text.Digit
import TableTalk.Text.Quoted
import TableTalk.Text.Search

/-!
# What a program can be called with

A `Usage` lists the options of a program, each of a kind, and tells whether the program wants an
operand. `Usage.piecesOf` tells what every word of a call is before any of them is acted on: an
operand, the name of an option, or the divider after which there are only operands. The name of an
option may be cut short as long as it can be told from the others.
-/

namespace TableTalk.CommandLine

open Text

inductive Kind where
  | help
  | switch
  | text
  | number
  deriving DecidableEq, Repr

structure Usage where
  /-- The options beside the one for help, under their names. -/
  settings : List (String × Kind)
  /-- Whether the program wants an operand. -/
  operand : Bool
  deriving DecidableEq, Repr

/-- What is wrong with a call. -/
inductive Mistake where
  /-- A name cut short stands for several options. -/
  | ambiguous (word : String) (names : List String)
  /-- A value is attached to an option that takes none. -/
  | valueRefused (name value : String)
  | valueMissing (name : String)
  | notWhole (name value : String)
  /-- The program has no use for some words. -/
  | strayWords (words : List String)
  | operandMissing
  deriving DecidableEq, Repr

namespace Mistake

def message : Mistake → String
  | ambiguous word names =>
    "ambiguous option: " ++ word ++ " could match " ++ join ", " names
  | valueRefused name value =>
    "argument " ++ name ++ ": ignored explicit argument " ++ quoted value
  | valueMissing name => "argument " ++ name ++ ": expected one argument"
  | notWhole name value => "argument " ++ name ++ ": invalid int value: " ++ quoted value
  | strayWords words => "unrecognized arguments: " ++ join " " words
  | operandMissing => "the following arguments are required: path"

end Mistake

/-- What a word of a call is. -/
inductive Piece where
  | operand (word : String)
  /-- Only operands follow. -/
  | divider
  /-- The option of a name and a kind, perhaps with a value in the same word. -/
  | option (name : String) (kind : Kind) (value : Option String)
  /-- The letter for help with further letters in the same word. -/
  | helpLetter (more : List Char)
  /-- The name of an option that the program does not have. -/
  | unknown (word : String)
  deriving DecidableEq, Repr

/-- Whether a text after a minus sign makes a negative number: digits, perhaps with a point before
the last of them. A line break at the end is passed over. -/
def isNumberTail (cs : List Char) : Bool :=
  let cs := if cs.getLast? = some '\n' then cs.dropLast else cs
  match cutAt? ['.'] cs with
  | none => !cs.isEmpty && cs.all isDigit
  | some (whole, part) => whole.all isDigit && !part.isEmpty && part.all isDigit

/-- What a word is that starts like an option, but like none of the program. -/
def otherwise (word : String) : Piece :=
  if isNumberTail (word.toList.drop 1) || contains word " " then .operand word
  else .unknown word

namespace Usage

/-- The options, the one for help first. -/
def options (u : Usage) : List (String × Kind) :=
  ("--help", .help) :: u.settings

def candidates (u : Usage) (start : List Char) : List (String × Kind) :=
  u.options.filter fun (name, _) => start.isPrefixOf name.toList

/-- What a word is that starts with two dashes. -/
def longPiece (u : Usage) (word : String) : Except Mistake Piece :=
  let (start, value) :=
    match cutAt? ['='] word.toList with
    | some (start, value) => (start, some (String.ofList value))
    | none => (word.toList, none)
  match u.options.find? (·.1.toList = start), u.candidates start with
  | some (name, kind), _ => .ok (.option name kind value)
  | none, [(name, kind)] => .ok (.option name kind value)
  | none, [] => .ok (otherwise word)
  | none, several => .error (.ambiguous word (several.map (·.1)))

/-- What a word is that stands before the divider. -/
def pieceOf (u : Usage) (word : String) : Except Mistake Piece :=
  match word.toList with
  | '-' :: '-' :: _ => u.longPiece word
  | '-' :: 'h' :: more => .ok (.helpLetter more)
  | '-' :: _ :: _ => .ok (otherwise word)
  | _ => .ok (.operand word)

def piecesOf (u : Usage) : List String → Except Mistake (List Piece)
  | [] => .ok []
  | word :: rest =>
    if word = "--" then .ok (.divider :: rest.map .operand)
    else do
      let first ← u.pieceOf word
      return first :: (← u.piecesOf rest)

end Usage

end TableTalk.CommandLine

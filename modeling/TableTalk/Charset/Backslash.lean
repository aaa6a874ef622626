import TableTalk.Charset.Reading
import TableTalk.Text.Digit
import TableTalk.Text.Units

/-!
# Characters behind backslashes

Bytes as the characters of Latin-1, with characters written as a backslash, a letter and hexadecimal
digits; in the fuller form also as the short escapes and the octal numbers of program texts.
-/

namespace TableTalk.Charset

open Text

/-- The number of `count` hexadecimal digits that are read behind `number`, or the count of those
that there are. -/
def hexDigits : (count : Nat) → (number read : Nat) → List Nat → Except Nat Nat
  | 0, number, _, _ => .ok number
  | _ + 1, _, read, [] => .error read
  | count + 1, number, read, b :: rest =>
    match hexValue? (Char.ofNat b) with
    | some v => hexDigits count (number * 16 + v) (read + 1) rest
    | none => .error read

/-- The character of a numbered escape, whose letter comes with the backslash. -/
def numbered (count : Nat) (rest : List Nat) : Reading :=
  match hexDigits count 0 0 rest with
  | .ok n => if n ≤ 0x10FFFF then .chars [charOf n] (1 + count) else .invalid (1 + count)
  | .error read => .invalid (1 + read)

def backslash : Nat := '\\'.toNat

/-- Escapes of code points only. -/
def rawEscapes : Step := fun b rest =>
  if b = backslash then
    match rest with
    | [] => .ascii b
    | c :: rest =>
      if c = 'u'.toNat then numbered 4 rest
      else if c = 'U'.toNat then numbered 8 rest
      else .chars [Char.ofNat b, Char.ofNat c] 1
  else .ascii b

def octalValue? (b : Nat) : Option Nat :=
  if '0'.toNat ≤ b ∧ b ≤ '7'.toNat then some (b - '0'.toNat) else none

/-- The number of up to three octal digits. -/
def octalDigits (first : Nat) (rest : List Nat) : Reading :=
  match (rest.take 2).map octalValue? with
  | some a :: some b :: _ => .chars [Char.ofNat ((first * 8 + a) * 8 + b)] 3
  | some a :: _ => .chars [Char.ofNat (first * 8 + a)] 2
  | _ => .chars [Char.ofNat first] 1

/-- The character that a letter behind a backslash stands for. -/
def shortEscape? : Char → Option Char
  | '\\' => some '\\'
  | '\'' => some '\''
  | '"' => some '"'
  | 'b' => some '\x08'
  | 'f' => some '\x0c'
  | 't' => some '\t'
  | 'n' => some '\n'
  | 'r' => some '\r'
  | 'v' => some '\x0b'
  | 'a' => some '\x07'
  | _ => none

/-- How many bytes an escape by name takes behind its letter: those up to the closing brace, if
there is a name. -/
def nameLength (rest : List Nat) : Nat :=
  match rest with
  | [] => 0
  | b :: name =>
    if b = '\x7b'.toNat then
      let count := (name.takeWhile (· ≠ '\x7d'.toNat)).length
      if count = name.length then 1 + count else if count = 0 then 1 else count + 2
    else 0

/-- All escapes. Names of characters are not known. -/
def fullEscapes : Step := fun b rest =>
  if b = backslash then
    match rest with
    | [] => .invalid 0
    | c :: rest =>
      match shortEscape? (Char.ofNat c), octalValue? c with
      | some c, _ => .chars [c] 1
      | none, some v => octalDigits v rest
      | none, none =>
        if c = '\n'.toNat then .chars [] 1
        else if c = 'x'.toNat then numbered 2 rest
        else if c = 'u'.toNat then numbered 4 rest
        else if c = 'U'.toNat then numbered 8 rest
        else if c = 'N'.toNat then .invalid (1 + nameLength rest)
        else .chars [Char.ofNat b, Char.ofNat c] 1
  else .ascii b

end TableTalk.Charset

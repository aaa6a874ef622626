import TableTalk.Text.Blank
import TableTalk.Text.Letter
import TableTalk.Text.Search

/-!
# The statement in a model's answer

A language model wraps the statement that it was asked for in the manner of a chat: in a code fence,
after a label, followed by an explanation. `clean` takes the statement out: it removes an opening
fence with the white space after it and a closing fence with the white space before it, then a label
`SQL:`, and what comes after the first empty line.
-/

namespace TableTalk.Generation

open Text

/-- The mark that opens and closes a code fence. -/
def fence : List Char := ['\x60', '\x60', '\x60']

def sqlWord : List Char := ['s', 'q', 'l']

/-- The text without an opening fence, the name of the language on it and the white space after. -/
def dropOpeningFence (cs : List Char) : List Char :=
  match dropStart? fence cs with
  | none => cs
  | some rest => trimLeft ((dropSpelled? sqlWord rest).getD rest)

/-- The text without a closing fence at its end and the white space before it. -/
def dropClosingFence (cs : List Char) : List Char :=
  if fence.isSuffixOf cs then trimRight (cs.take (cs.length - fence.length)) else cs

/-- The text without a label and the white space around it. -/
def dropLabel (cs : List Char) : List Char :=
  match dropSpelled? sqlWord (trimLeft cs) with
  | none => cs
  | some rest =>
    match trimLeft rest with
    | ':' :: rest => trimLeft rest
    | _ => cs

/-- The text before the first two line feeds in a row. -/
def firstParagraph (cs : List Char) : List Char :=
  match cutAt? ['\n', '\n'] cs with
  | some (before, _) => before
  | none => cs

def cleanChars (cs : List Char) : List Char :=
  trimChars (firstParagraph (dropLabel (dropClosingFence (dropOpeningFence (trimChars cs)))))

def clean (answer : String) : String :=
  String.ofList (cleanChars answer.toList)

end TableTalk.Generation

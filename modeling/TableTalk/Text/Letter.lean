/-!
# Letters without regard to case

`isLetter` tells whether a character spells a lower-case ASCII letter in some case. Beside the two
ASCII cases these are the characters that fold to the letter: the dotless and the dotted i, the long
s and the sign for kelvin.
-/

namespace TableTalk.Text

/-- Whether `c` spells the given lower-case letter. -/
def isLetter (letter c : Char) : Bool :=
  c.toLower = letter || (letter = 'i' && (c = 'ı' || c = 'İ')) || (letter = 's' && c = 'ſ')
    || (letter = 'k' && c = '\u212A')

/-- Whether a text spells a word of lower-case letters. -/
def spells (word cs : List Char) : Bool :=
  cs.length = word.length && (word.zip cs).all fun (l, c) => isLetter l c

/-- What follows a word at the front of a text, in whatever case it is spelled. -/
def dropSpelled? (word cs : List Char) : Option (List Char) :=
  if spells word (cs.take word.length) then some (cs.drop word.length) else none

end TableTalk.Text

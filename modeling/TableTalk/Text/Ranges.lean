/-!
# Classes of characters given by ranges

A class of characters beyond ASCII is a list of inclusive ranges of code points, in increasing
order. `inRanges` is membership in such a list.
-/

namespace TableTalk.Text

/-- Membership of a code point in a list of inclusive ranges. -/
def inRanges (ranges : List (Nat × Nat)) (n : Nat) : Bool :=
  ranges.any fun (first, last) => first ≤ n && n ≤ last

end TableTalk.Text

/-!
# Searching a text for another

`occurs` tells whether a text holds another, `splitOn` cuts a text at every character of a kind and
`cutAt?` cuts it at the first occurrence of a text. `findFirst` and `upTo?` look along a text for
the first position that fits.
-/

namespace TableTalk.Text

/-- Whether `hay` holds `needle` as a run of neighbouring characters. -/
def occurs (needle : List Char) : List Char → Bool
  | [] => needle.isEmpty
  | c :: rest => needle.isPrefixOf (c :: rest) || occurs needle rest

/-- Whether the text `hay` holds the text `needle`. -/
def contains (hay needle : String) : Bool :=
  occurs needle.toList hay.toList

/-- The pieces of a text between the occurrences of a separating character. -/
def splitOn (sep : Char) : List Char → List (List Char)
  | [] => [[]]
  | c :: rest =>
    if c = sep then [] :: splitOn sep rest
    else
      match splitOn sep rest with
      | [] => [[c]]
      | piece :: pieces => (c :: piece) :: pieces

/-- What stands before and after the first occurrence of `needle`. -/
def cutAt? (needle : List Char) : List Char → Option (List Char × List Char)
  | [] => if needle.isEmpty then some ([], []) else none
  | c :: rest =>
    if needle.isPrefixOf (c :: rest) then some ([], (c :: rest).drop needle.length)
    else (cutAt? needle rest).map fun (before, after) => (c :: before, after)

/-- What follows `start`, if the text starts with it. -/
def dropStart? (start cs : List Char) : Option (List Char) :=
  if start.isPrefixOf cs then some (cs.drop start.length) else none

/-- The outcome of `look` at the first position of the text where it has one. -/
def findFirst {α : Type} (look : List Char → Option α) : List Char → Option α
  | [] => look []
  | c :: rest =>
    match look (c :: rest) with
    | some a => some a
    | none => findFirst look rest

/-- The text up to the first position at which `stop` holds of what follows. -/
def upTo? (stop : List Char → Bool) : List Char → Option (List Char)
  | [] => if stop [] then some [] else none
  | c :: rest => if stop (c :: rest) then some [] else (upTo? stop rest).map (c :: ·)

def join (sep : String) (parts : List String) : String :=
  String.intercalate sep parts

theorem splitOn_ne_nil (sep : Char) (cs : List Char) : splitOn sep cs ≠ [] := by
  induction cs with
  | nil => simp [splitOn]
  | cons c rest ih =>
    rw [splitOn]
    split
    · simp
    · split <;> simp

end TableTalk.Text

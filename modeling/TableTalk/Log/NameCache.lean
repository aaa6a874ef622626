/-!
# The cache of log file names

The file of a ticket is named once and remembered. The cache keeps the most recently used entries,
at most a fixed number of them, and lists them from the least to the most recently used one. `use`
looks a key up and adds it with a new value if it is not there; either way the key becomes the most
recently used one.
-/

namespace TableTalk.Log

structure Key where
  base : String
  ticket : String
  deriving DecidableEq, Repr

/-- Entries from the least to the most recently used one. -/
abbrev NameCache := List (Key × String)

namespace NameCache

/-- The most entries that are kept. -/
def capacity : Nat := 1024

/-- The last `n` entries. -/
def keepLast (n : Nat) (c : NameCache) : NameCache :=
  c.drop (c.length - n)

def knows (k : Key) (c : NameCache) : Bool :=
  c.any fun (k', _) => k' = k

/-- The value of a key, the given one if the key is new, and the cache after that use. -/
def use (size : Nat) (k : Key) (fresh : String) (c : NameCache) : String × NameCache :=
  match c.find? fun (k', _) => k' = k with
  | some (_, v) => (v, c.filter (fun (k', _) => k' ≠ k) ++ [(k, v)])
  | none => (fresh, keepLast size (c ++ [(k, fresh)]))

end NameCache

end TableTalk.Log

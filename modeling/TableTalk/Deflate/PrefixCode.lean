import TableTalk.Deflate.Stream

/-!
# Prefix codes

A code is a tree: from its root each bit leads to one of two sides, down to a symbol. A code is told
by the lengths of its words alone. Of the nodes at one depth, from left to right, the symbols whose
words have that length come first and in order, then the forks over the nodes one deeper.
-/

namespace TableTalk.Deflate

inductive PrefixCode where
  /-- No word goes on here. -/
  | unused
  | symbol (n : Nat)
  | fork (zero one : PrefixCode)
  deriving DecidableEq, Repr

namespace PrefixCode

/-- Forks over nodes two by two, the last of an odd number alone. -/
def forks : List PrefixCode → List PrefixCode
  | zero :: one :: rest => .fork zero one :: forks rest
  | [zero] => [.fork zero .unused]
  | [] => []

def symbolsOf (lengths : List Nat) (length : Nat) : List PrefixCode :=
  (List.range lengths.length).filterMap fun n =>
    if lengths[n]? = some length then some (.symbol n) else none

/-- The nodes at a depth and below, for `left` depths in all. -/
def nodes (lengths : List Nat) : (depth left : Nat) → List PrefixCode
  | _, 0 => []
  | depth, left + 1 =>
    (if depth = 0 then [] else symbolsOf lengths depth) ++ forks (nodes lengths (depth + 1) left)

/-- Whether every row of bits leads to a symbol. -/
def isComplete : PrefixCode → Bool
  | unused => false
  | symbol _ => true
  | fork zero one => zero.isComplete && one.isComplete

/-- The longest a word may be. -/
def longest : Nat := 15

/-- The code of words with such lengths, where zero says that a symbol has none. It has to be
complete unless it has no words, or, where that is `lenient`, a single word of one bit. -/
def ofLengths? (lenient : Bool) (lengths : List Nat) : Option PrefixCode :=
  match nodes lengths 0 (longest + 1) with
  | [] => some (.fork .unused .unused)
  | [code] => if code.isComplete || (lenient && lengths.all (· ≤ 1)) then some code else none
  | _ => none

/-- Reads a symbol, if the bits lead to one. -/
def read : PrefixCode → Unpacking (Option Nat)
  | unused => return none
  | symbol n => return some n
  | fork zero one => do if ← Unpacking.bit then one.read else zero.read

end PrefixCode

end TableTalk.Deflate

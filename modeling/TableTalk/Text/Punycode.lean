import TableTalk.Text.Digit
import TableTalk.Text.Search

/-!
# Punycode

A text beyond ASCII written with letters, digits and hyphens: first its ASCII characters, then,
after a hyphen, what has to be inserted among them. Characters are inserted in the order of their
code points; each insertion is a number, the distance from the one before counted over all positions
of all code points in between. The numbers have the base 36 and digits of growing weight, where a
threshold tells the last digit; thresholds follow a bias that is adapted after each number.
-/

namespace TableTalk.Text.Punycode

def digitOf (n : Nat) : Char :=
  if n < 26 then Char.ofNat ('a'.toNat + n) else Char.ofNat ('0'.toNat + (n - 26))

def valueOf? (c : Char) : Option Nat :=
  if 'a' ≤ c ∧ c ≤ 'z' then some (c.toNat - 'a'.toNat)
  else if 'A' ≤ c ∧ c ≤ 'Z' then some (c.toNat - 'A'.toNat)
  else if '0' ≤ c ∧ c ≤ '9' then some (c.toNat - '0'.toNat + 26)
  else none

/-- The threshold of the digit at place `k`, where the places count 36, 72 and so on. -/
def threshold (k bias : Nat) : Nat :=
  if k ≤ bias then 1 else if bias + 26 ≤ k then 26 else k - bias

theorem threshold_pos (k bias : Nat) : 1 ≤ threshold k bias := by
  unfold threshold
  split
  · omega
  · split <;> omega

/-- Divides by 35 down to 455, counting 36 for each division. -/
def shrink (delta k : Nat) : Nat × Nat :=
  if 455 < delta then shrink (delta / 35) (k + 36) else (delta, k)
termination_by delta
decreasing_by exact Nat.div_lt_self (by omega) (by omega)

/-- The bias after a number, with as many characters placed as `count` says. -/
def adapt (delta count : Nat) (isFirst : Bool) : Nat :=
  let halved := if isFirst then delta / 700 else delta / 2
  let (rest, k) := shrink (halved + halved / count) 0
  k + 36 * rest / (rest + 38)

/-- The digits of a number from place `k` on. -/
def digits (bias k q : Nat) : List Char :=
  let t := threshold k bias
  if q < t then [digitOf q]
  else digitOf (t + (q - t) % (36 - t)) :: digits bias (k + 36) ((q - t) / (36 - t))
termination_by q
decreasing_by
  have := threshold_pos k bias
  exact Nat.lt_of_le_of_lt (Nat.div_le_self _ _) (by omega)

/-- The state of writing: what is written, the number that is growing, the bias and the count of
characters placed. -/
structure Writing where
  written : List Char
  delta : Nat
  bias : Nat
  count : Nat

namespace Writing

/-- Looks at a character while those with code point `n` are placed; `basic` is the count of ASCII
characters. -/
def pass (basic n : Nat) (w : Writing) (c : Char) : Writing :=
  if c.toNat < n then { w with delta := w.delta + 1 }
  else if c.toNat = n then
    { written := w.written ++ digits w.bias 36 w.delta
      delta := 0
      bias := adapt w.delta (w.count + 1) (w.count == basic)
      count := w.count + 1 }
  else w

/-- Places the characters of the given code points, of which all below `next` are placed. -/
def place (cs : List Char) (basic : Nat) : (todo : List Nat) → (next : Nat) → Writing → Writing
  | [], _, w => w
  | n :: todo, next, w =>
    let w := cs.foldl (pass basic n) { w with delta := w.delta + (n - next) * (w.count + 1) }
    place cs basic todo (n + 1) { w with delta := w.delta + 1 }

end Writing

/-- A number put into an increasing row, unless it is there. -/
def insertNew (n : Nat) : List Nat → List Nat
  | [] => [n]
  | m :: rest => if n < m then n :: m :: rest else if n = m then m :: rest else m :: insertNew n rest

/-- The code point and the bias that inserting starts with. -/
def firstPoint : Nat := 128

def firstBias : Nat := 72

def encode (cs : List Char) : List Char :=
  let basic := cs.filter fun c => c.toNat < 128
  let points := ((cs.map Char.toNat).filter (128 ≤ ·)).foldr insertNew []
  let start : Writing := ⟨[], 0, firstBias, basic.length⟩
  basic ++ (if basic.isEmpty then [] else ['-'])
    ++ (Writing.place cs basic.length points firstPoint start).written

/-- Reads a number from place `k` on, where a digit has the weight `w`; `sum` is what the digits
before amount to. -/
def takeNumber? (bias : Nat) : List Char → (k w sum : Nat) → Option (Nat × List Char)
  | [], _, _, _ => none
  | c :: rest, k, w, sum =>
    match valueOf? c with
    | none => none
    | some d =>
      if d < threshold k bias then some (sum + d * w, rest)
      else takeNumber? bias rest (k + 36) (w * (36 - threshold k bias)) (sum + d * w)

theorem takeNumber?_length {bias : Nat} {cs : List Char} {k w sum : Nat} {r : Nat × List Char}
    (h : takeNumber? bias cs k w sum = some r) : r.2.length < cs.length := by
  induction cs generalizing k w sum with
  | nil => simp [takeNumber?] at h
  | cons c rest ih =>
    rw [takeNumber?] at h
    split at h
    · simp at h
    · split at h
      · rw [← Option.some.inj h]
        simp
      · exact Nat.lt_succ_of_lt (ih h)

/-- Inserts characters into `done` as numbers tell, the last code point and the position after the
last insertion being given. -/
def insertAll (isFirst : Bool) (bias point position : Nat) (done cs : List Char) :
    Option (List Char) :=
  match cs with
  | [] => some done
  | c :: rest =>
    match _h : takeNumber? bias (c :: rest) 36 1 0 with
    | none => none
    | some (delta, left) =>
      let count := done.length + 1
      let index := (position + delta) % count
      let point := point + (position + delta) / count
      if point.isValidChar then
        insertAll false (adapt delta count isFirst) point (index + 1)
          (done.take index ++ Char.ofNat point :: done.drop index) left
      else none
termination_by cs.length
decreasing_by exact takeNumber?_length (by assumption)

end TableTalk.Text.Punycode

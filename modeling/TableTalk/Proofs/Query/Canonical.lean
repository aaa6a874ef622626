import Mathlib.Data.List.Forall2
import TableTalk.Proofs.Text.Ascii
import TableTalk.Query.Parse

/-!
# Canonical queries

A canonical query has its clauses in the usual order, names made of ASCII letters, digits and
underscores, and quoted values that hold neither quotes nor the words for the clauses that may
follow them. `meaning` is what such a query asks for. `pieces` is the way it is written: keywords in
any letter case, names and values as they stand, and white space between them.
-/

namespace TableTalk.Query

open Text

/-- A name in lower case that cannot be taken for a part of another clause. -/
structure IsName (x : List Char) : Prop where
  ne_nil : x ≠ []
  isWordAscii : ∀ c ∈ x, isWordAscii c = true
  not_from : ¬ fromWord <+: x
  not_where : ¬ whereWord <:+ x

theorem isName_iff {x : List Char} :
    (!x.isEmpty && x.all Text.isWordAscii && !fromWord.isPrefixOf x && !whereWord.isSuffixOf x) =
      true ↔ IsName x := by
  simp only [Bool.and_eq_true, Bool.not_eq_true', List.all_eq_true,
    ← Bool.not_eq_true, List.isEmpty_iff, List.isPrefixOf_iff_prefix, List.isSuffixOf_iff_suffix]
  constructor
  · rintro ⟨⟨⟨hne, hword⟩, hfrom⟩, hwhere⟩
    exact ⟨hne, hword, hfrom, hwhere⟩
  · rintro ⟨hne, hword, hfrom, hwhere⟩
    exact ⟨⟨⟨hne, hword⟩, hfrom⟩, hwhere⟩

instance (x : List Char) : Decidable (IsName x) :=
  decidable_of_iff _ isName_iff

structure Name where
  chars : List Char
  isName : IsName (chars.map Char.toLower)

namespace Name

def lowered (x : Name) : String :=
  lower (String.ofList x.chars)

def lowerChars (x : Name) : List Char :=
  x.chars.map Char.toLower

theorem isName_lowerChars (x : Name) : IsName x.lowerChars := x.isName

end Name

/-- A condition on a column. Its value is ASCII text without quotes in which neither `order` nor
`limit` occurs; a value for `like` holds no equals sign and no percent sign besides. -/
structure Comparison where
  column : Name
  operator : Operator
  quote : Char
  value : List Char
  isQuote : isQuote quote = true
  isAscii : IsAscii value
  not_isQuote : value.any Query.isQuote = false
  not_order : ¬ orderWord <:+: value.map Char.toLower
  not_limit : ¬ limitWord <:+: value.map Char.toLower
  plain : operator = .like → '=' ∉ value ∧ '%' ∉ value

inductive Direction where
  | ascending
  | descending
  deriving DecidableEq

theorem Comparison.quote_eq (c : Comparison) : c.quote = '\'' ∨ c.quote = '"' := by
  simpa [Query.isQuote] using c.isQuote

theorem Comparison.isQuote_of_mem (c : Comparison) {d : Char} (hd : d ∈ c.value) :
    Query.isQuote d = false :=
  Bool.eq_false_iff.2 (List.any_eq_false.1 c.not_isQuote d hd)

theorem Comparison.toLower_quote (c : Comparison) : c.quote.toLower = c.quote := by
  rcases c.quote_eq with h | h <;> rw [h] <;> decide

structure Sorting where
  column : Name
  castTo : Option Name
  direction : Option Direction

structure Decimal where
  digits : List Char
  ne_nil : digits ≠ []
  isDigit : digits.all Char.isDigit = true
  length_le : digits.length ≤ digitLimit

theorem Decimal.isDigit_of_mem (n : Decimal) {c : Char} (hc : c ∈ n.digits) : c.isDigit = true :=
  List.all_eq_true.1 n.isDigit c hc

theorem Decimal.notMem (n : Decimal) {c : Char} (hc : c.isDigit = false) : c ∉ n.digits := by
  intro hmem
  rw [n.isDigit_of_mem hmem] at hc
  exact absurd hc (by decide)

theorem Decimal.isWordAscii_of_mem (n : Decimal) : ∀ c ∈ n.digits, isWordAscii c = true := by
  intro c hc
  simp [isWordAscii, Char.isAlphanum, n.isDigit_of_mem hc]

theorem Decimal.map_toLower (n : Decimal) : n.digits.map Char.toLower = n.digits := by
  have hid : ∀ c ∈ n.digits, c.toLower = id c := by
    intro c hc
    have hascii : c.toNat < 128 := toNat_lt_of_isWordAscii (n.isWordAscii_of_mem c hc)
    exact forall_ascii (p := fun c => c.isDigit = true → c.toLower = c) (by decide) hascii
      (n.isDigit_of_mem hc)
  rw [List.map_congr_left hid, List.map_id]

/-- A query with each of its clauses present or not; no columns stand for all of them. -/
structure CanonicalQuery where
  columns : Option (Name × List Name)
  table : Name
  comparison : Option Comparison
  sorting : Option Sorting
  limit : Option Decimal

def CanonicalQuery.meaning (q : CanonicalQuery) : Query where
  projection := q.columns.map fun (first, others) => (first :: others).map Name.lowered
  filter := q.comparison.map fun c =>
    .holds c.column.lowered c.operator (lower (String.ofList c.value))
  sort := q.sorting.map fun s => ⟨s.column.lowered, s.direction = some .descending⟩
  limit := q.limit.map fun n => Nat.ofDigitChars 10 n.digits 0

def IsRoom (w : List Char) : Prop :=
  allBlank w = true ∧ IsAscii w

instance (w : List Char) : Decidable (IsRoom w) :=
  inferInstanceAs (Decidable (_ ∧ _))

inductive Piece where
  /-- A word in any letter case, given in lower case. -/
  | keyword (word : List Char)
  | verbatim (cs : List Char)
  /-- White space, at least one character. -/
  | gap
  /-- White space or nothing. -/
  | room

namespace Piece

def Admits : Piece → List Char → Prop
  | keyword word, cs => cs.map Char.toLower = word
  | verbatim text, cs => cs = text
  | gap, cs => cs ≠ [] ∧ IsRoom cs
  | room, cs => IsRoom cs

instance : (p : Piece) → (cs : List Char) → Decidable (p.Admits cs)
  | keyword _, _ => inferInstanceAs (Decidable (_ = _))
  | verbatim _, _ => inferInstanceAs (Decidable (_ = _))
  | gap, _ => inferInstanceAs (Decidable (_ ∧ _))
  | room, _ => inferInstanceAs (Decidable (IsRoom _))

end Piece

/-- A text is a spelling of pieces if it is made of parts that they admit, one after another. -/
def Spells (pieces : List Piece) (cs : List Char) : Prop :=
  ∃ parts, List.Forall₂ Piece.Admits pieces parts ∧ parts.flatten = cs

def namePieces : Name → List Name → List Piece
  | first, [] => [.verbatim first.chars]
  | first, next :: others =>
    .verbatim first.chars :: .room :: .verbatim [','] :: .room :: namePieces next others

def columnPieces : Option (Name × List Name) → List Piece
  | none => [.verbatim ['*']]
  | some (first, others) => namePieces first others

namespace Comparison

def clausePieces (c : Comparison) : List Piece :=
  match c.operator with
  | .equals =>
    [.verbatim c.column.chars, .room, .verbatim ['='], .room,
      .verbatim (c.quote :: (c.value ++ [c.quote]))]
  | .like =>
    [.verbatim c.column.chars, .gap, .keyword likeWord, .gap,
      .verbatim (c.quote :: '%' :: (c.value ++ ['%', c.quote]))]

def pieces (c : Comparison) : List Piece :=
  [.gap, .keyword whereWord, .gap] ++ c.clausePieces

end Comparison

namespace Sorting

def columnPieces (s : Sorting) : List Piece :=
  match s.castTo with
  | none => [.verbatim s.column.chars]
  | some type =>
    [.keyword castWord, .room, .verbatim ['('], .room, .verbatim s.column.chars, .gap,
      .keyword asWord, .gap, .verbatim type.chars, .room, .verbatim [')']]

def directionPieces (s : Sorting) : List Piece :=
  match s.direction with
  | none => []
  | some .ascending => [.gap, .keyword ascWord]
  | some .descending => [.gap, .keyword descWord]

def pieces (s : Sorting) : List Piece :=
  [.gap, .keyword orderWord, .gap, .keyword byWord, .gap] ++
    (s.columnPieces ++ s.directionPieces)

end Sorting

def Decimal.pieces (n : Decimal) : List Piece :=
  [.gap, .keyword limitWord, .gap, .verbatim n.digits]

namespace CanonicalQuery

def headPieces (q : CanonicalQuery) : List Piece :=
  [.keyword selectWord, .gap] ++
    (columnPieces q.columns ++ [.gap, .keyword fromWord, .gap, .verbatim q.table.chars])

def pieces (q : CanonicalQuery) : List Piece :=
  q.headPieces ++ (q.comparison.elim [] Comparison.pieces ++
    (q.sorting.elim [] Sorting.pieces ++ q.limit.elim [] Decimal.pieces))

end CanonicalQuery

end TableTalk.Query

import Mathlib
import TableTalk.Proofs.Double.Rounding
import TableTalk.Proofs.Query.Refusal

/-!
# Columns of numbers and words

Two cells compare as numbers if both are read as numbers, and as texts otherwise, so a column with
cells of both sorts may compare in a circle. It does not if its numbers start with a hyphen or an
ASCII digit and its other texts start outside the range of these characters: then the other texts
below the hyphen come first, the numbers next and the other texts above the digits last.
-/

namespace TableTalk.Query

open Text Double

inductive Kind where
  | low
  | number
  | high
  deriving DecidableEq

def Kind.rank : Kind → Nat
  | low => 0
  | number => 1
  | high => 2

theorem Kind.rank_ne_rank {k l : Kind} (h : k ≠ l) : k.rank ≠ l.rank := by
  cases k <;> cases l <;> simp_all [rank]

/-- A number starts with a hyphen or an ASCII digit. A text that is not read as a number starts
with a character below the hyphen, if with any, or with one above the digits. -/
def HasKind (text : String) : Kind → Prop
  | .low => leading text = .ok none ∧ ∀ c ∈ text.toList.head?, c < '-'
  | .number => (∃ x, leading text = .ok (some x)) ∧
      ∃ c ∈ text.toList.head?, c = '-' ∨ '0' ≤ c ∧ c ≤ '9'
  | .high => leading text = .ok none ∧ ∃ c ∈ text.toList.head?, '9' < c

def Precedes (a b : String) : Prop :=
  SortCell.fits false (sortCell a) (sortCell b) = true

instance (a b : String) : Decidable (Precedes a b) :=
  inferInstanceAs (Decidable (_ = true))

def Ties (a b : String) : Prop :=
  Precedes a b ∧ Precedes b a

section Kinds

variable {a b c : String} {k l m : Kind}

theorem leading_ne_nan {text : String} {x : Double} (h : leading text = .ok (some x)) :
    x ≠ .nan := by
  simp only [leading] at h
  split at h
  · split at h
    · rintro rfl
      cases h
    · cases h
  · obtain ⟨n, -, rfl⟩ := Option.map_eq_some_iff.1 (Except.ok.inj h)
    exact ofDecimal_ne_nan _ _ _

/-- Cells of the three kinds can be read. -/
theorem leading_of_hasKind (h : HasKind a k) : leading a = .ok (sortCell a).number := by
  cases k with
  | low => rw [sortCell, h.1]; rfl
  | number =>
    obtain ⟨⟨x, hx⟩, -⟩ := h
    rw [sortCell, hx]
    rfl
  | high => rw [sortCell, h.1]; rfl

theorem exists_number (h : HasKind a .number) :
    ∃ x, (sortCell a).number = some x ∧ x ≠ .nan := by
  obtain ⟨x, hx⟩ := h.1
  refine ⟨x, ?_, leading_ne_nan hx⟩
  exact Except.ok.inj ((leading_of_hasKind h).symm.trans hx)

theorem number_eq_none (h : HasKind a k) (hk : k ≠ .number) : (sortCell a).number = none := by
  have hread : leading a = .ok none := by
    cases k with
    | low => exact h.1
    | number => exact absurd rfl hk
    | high => exact h.1
  exact Except.ok.inj ((leading_of_hasKind h).symm.trans hread)

theorem lt_of_head_lt (h : ∃ d ∈ b.toList.head?, ∀ c ∈ a.toList.head?, c < d) : a < b := by
  obtain ⟨d, hd, hlt⟩ := h
  obtain ⟨bs, hbs⟩ := List.head?_eq_some_iff.1 hd
  rw [String.lt_iff_toList_lt, hbs]
  cases has : a.toList with
  | nil => exact List.nil_lt_cons d bs
  | cons c as => exact List.cons_lt_cons_iff.2 (Or.inl (hlt c (by rw [has]; rfl)))

theorem lt_of_rank_lt (ha : HasKind a k) (hb : HasKind b l) (h : k.rank < l.rank) : a < b := by
  apply lt_of_head_lt
  cases k with
  | low =>
    cases l with
    | low => exact absurd h (Nat.lt_irrefl _)
    | number =>
      obtain ⟨d, hd, hstart⟩ := hb.2
      refine ⟨d, hd, fun c hc => lt_of_lt_of_le (ha.2 c hc) ?_⟩
      rcases hstart with rfl | ⟨hdigit, -⟩
      · exact le_rfl
      · exact le_trans (by decide) hdigit
    | high =>
      obtain ⟨d, hd, hstart⟩ := hb.2
      exact ⟨d, hd, fun c hc => lt_trans (ha.2 c hc) (lt_trans (by decide) hstart)⟩
  | number =>
    cases l with
    | low => exact absurd h (by decide)
    | number => exact absurd h (Nat.lt_irrefl _)
    | high =>
      obtain ⟨c, hc, hstart⟩ := ha.2
      obtain ⟨d, hd, habove⟩ := hb.2
      refine ⟨d, hd, fun c' hc' => lt_of_le_of_lt ?_ habove⟩
      obtain rfl : c = c' := Option.mem_unique hc hc'
      rcases hstart with rfl | ⟨-, hdigit⟩
      · decide
      · exact hdigit
  | high => cases l <;> exact absurd h (by decide)

/-- Two texts compare as texts unless both are numbers. -/
theorem before_eq_of_text (ha : HasKind a k) (hb : HasKind b l) (h : k ≠ .number ∨ l ≠ .number) :
    (sortCell a).before (sortCell b) = decide (a < b) := by
  unfold SortCell.before
  rcases h with hk | hl
  · rw [number_eq_none ha hk]
    rfl
  · rw [number_eq_none hb hl]
    cases (sortCell a).number <;> rfl

/-- The place of a text in its column: the low texts in their order, then the numbers in theirs,
then the high texts in theirs. -/
def place (text : String) : Kind → String ⊕ₗ (WithBot (WithTop Int)) ⊕ₗ String
  | .low => Sum.inlₗ text
  | .number => Sum.inrₗ (Sum.inlₗ ((sortCell text).number.elim ⊥ Double.place))
  | .high => Sum.inrₗ (Sum.inrₗ text)

theorem place_lt_of_rank_lt (a b : String) (h : k.rank < l.rank) : place a k < place b l := by
  cases k with
  | low =>
    cases l with
    | low => exact absurd h (Nat.lt_irrefl _)
    | number => exact Sum.Lex.inl_lt_inr _ _
    | high => exact Sum.Lex.inl_lt_inr _ _
  | number =>
    cases l with
    | low => exact absurd h (by decide)
    | number => exact absurd h (Nat.lt_irrefl _)
    | high => exact Sum.Lex.inr_lt_inr_iff.2 (Sum.Lex.inl_lt_inr _ _)
  | high => cases l <;> exact absurd h (by decide)

theorem before_iff_place_lt_of_numbers (ha : HasKind a .number) (hb : HasKind b .number) :
    (sortCell a).before (sortCell b) = true ↔ place a .number < place b .number := by
  obtain ⟨x, hx, hxnan⟩ := exists_number ha
  obtain ⟨y, hy, hynan⟩ := exists_number hb
  unfold SortCell.before
  rw [place, place, hx, hy]
  refine (lt_iff_place_lt hxnan hynan).trans ?_
  exact (Sum.Lex.inr_lt_inr_iff.trans Sum.Lex.inl_lt_inl_iff).symm

/-- Texts of the three kinds compare as their places do. -/
theorem before_iff_place_lt (ha : HasKind a k) (hb : HasKind b l) :
    (sortCell a).before (sortCell b) = true ↔ place a k < place b l := by
  by_cases hkl : k = l
  · subst hkl
    cases k with
    | low =>
      rw [before_eq_of_text ha hb (Or.inl (by decide)), decide_eq_true_eq]
      exact Sum.Lex.inl_lt_inl_iff.symm
    | number => exact before_iff_place_lt_of_numbers ha hb
    | high =>
      rw [before_eq_of_text ha hb (Or.inl (by decide)), decide_eq_true_eq]
      exact (Sum.Lex.inr_lt_inr_iff.trans Sum.Lex.inr_lt_inr_iff).symm
  · have hnumber : k ≠ .number ∨ l ≠ .number := by
      by_contra hboth
      rw [not_or, not_not, not_not] at hboth
      exact hkl (hboth.1.trans hboth.2.symm)
    rw [before_eq_of_text ha hb hnumber, decide_eq_true_eq]
    rcases Nat.lt_or_gt_of_ne (Kind.rank_ne_rank hkl) with hlt | hgt
    · exact iff_of_true (lt_of_rank_lt ha hb hlt) (place_lt_of_rank_lt a b hlt)
    · refine iff_of_false (lt_asymm (lt_of_rank_lt hb ha hgt)) ?_
      exact lt_asymm (place_lt_of_rank_lt b a hgt)

theorem precedes_iff_place_le (ha : HasKind a k) (hb : HasKind b l) :
    Precedes a b ↔ place a k ≤ place b l := by
  rw [Precedes, SortCell.fits, if_neg (by decide), Bool.not_eq_true', ← Bool.not_eq_true,
    before_iff_place_lt hb ha, not_lt]

theorem precedes_total (ha : HasKind a k) (hb : HasKind b l) : Precedes a b ∨ Precedes b a :=
  (le_total _ _).imp (precedes_iff_place_le ha hb).2 (precedes_iff_place_le hb ha).2

theorem precedes_trans (ha : HasKind a k) (hb : HasKind b l) (hc : HasKind c m)
    (hab : Precedes a b) (hbc : Precedes b c) : Precedes a c :=
  (precedes_iff_place_le ha hc).2
    (((precedes_iff_place_le ha hb).1 hab).trans ((precedes_iff_place_le hb hc).1 hbc))

end Kinds

theorem totalPreorder_of_kinds {texts : List String}
    (h : ∀ text ∈ texts, ∃ kind, HasKind text kind) : TotalPreorder (texts.map sortCell) where
  total := by
    simp only [List.mem_map, forall_exists_index, and_imp, forall_apply_eq_imp_iff₂]
    intro a ha b hb
    obtain ⟨k, hk⟩ := h a ha
    obtain ⟨l, hl⟩ := h b hb
    exact precedes_total hk hl
  trans := by
    simp only [List.mem_map, forall_exists_index, and_imp, forall_apply_eq_imp_iff₂]
    intro a ha b hb c hc
    obtain ⟨k, hk⟩ := h a ha
    obtain ⟨l, hl⟩ := h b hb
    obtain ⟨m, hm⟩ := h c hc
    exact precedes_trans hk hl hm

/-- Rows with such cells can be sorted, and then each may stand before all the later ones. -/
theorem sortRows_of_kinds {index : Nat} {rows : List (List Cell)}
    (h : ∀ row ∈ rows, ∃ kind, HasKind (cellAt row index) kind) :
    ∃ sorted, sortRows index false rows = .ok sorted ∧ sorted.Perm rows ∧
      sorted.Pairwise fun r s => Precedes (cellAt r index) (cellAt s index) := by
  have hread : ¬ Fails (sortRows index false rows) := by
    rw [fails_sortRows_iff]
    rintro ⟨-, row, hrow, hdotted⟩
    obtain ⟨kind, hkind⟩ := h row hrow
    rw [← fails_leading_iff, leading_of_hasKind hkind] at hdotted
    exact not_fails_ok _ hdotted
  obtain ⟨sorted, hsorted⟩ := exists_eq_ok hread
  let t : Table := ⟨[], rows⟩
  let order := List.range rows.length
  have hrows : order.map (rowAt t) = rows := map_rowAt_range t
  have hcells : TotalPreorder (order.map fun a => sortCell (cellAt (rowAt t a) index)) := by
    have hkinds : ∀ text ∈ rows.map (cellAt · index), ∃ kind, HasKind text kind := by
      intro text htext
      obtain ⟨row, hrow, rfl⟩ := List.mem_map.1 htext
      exact h row hrow
    have htotal := totalPreorder_of_kinds hkinds
    rw [← hrows, List.map_map, List.map_map] at htotal
    exact htotal
  have horder : sortRows index false (order.map (rowAt t)) = .ok sorted := by rwa [hrows]
  have hsort := sortRows_map horder
  refine ⟨sorted, hsorted, ?_, ?_⟩
  · rw [hsort]
    exact ((List.mergeSort_perm order _).map _).trans (List.Perm.of_eq hrows)
  · rw [hsort, List.pairwise_map]
    exact (pairwise_mergeSort_fits false hcells List.pairwise_lt_range).imp fun hle => hle.1

/-- Texts of the three kinds can all be read, and they compare as a total preorder in which the low
texts come before the numbers and these before the high texts. Sorting goes by this order. -/
theorem compare_of_kinds {texts : Set String} (htexts : ∀ text ∈ texts, ∃ kind, HasKind text kind) :
    (∀ text ∈ texts, leading text = .ok (sortCell text).number) ∧
    (∀ a ∈ texts, ∀ b ∈ texts, Precedes a b ∨ Precedes b a) ∧
    (∀ a ∈ texts, ∀ b ∈ texts, ∀ c ∈ texts, Precedes a b → Precedes b c → Precedes a c) ∧
    (∀ a ∈ texts, ∀ b ∈ texts, ∀ c ∈ texts, Ties a b → Ties b c → Ties a c) ∧
    (∀ a ∈ texts, ∀ b ∈ texts, ∀ k l, HasKind a k → HasKind b l → k.rank < l.rank →
      Precedes a b ∧ ¬ Precedes b a) ∧
    ∀ index rows, (∀ row ∈ rows, cellAt row index ∈ texts) →
      ∃ sorted, sortRows index false rows = .ok sorted ∧ sorted.Perm rows ∧
        sorted.Pairwise fun r s => Precedes (cellAt r index) (cellAt s index) := by
  have htrans : ∀ a ∈ texts, ∀ b ∈ texts, ∀ c ∈ texts,
      Precedes a b → Precedes b c → Precedes a c := by
    intro a ha b hb c hc
    obtain ⟨k, hk⟩ := htexts a ha
    obtain ⟨l, hl⟩ := htexts b hb
    obtain ⟨m, hm⟩ := htexts c hc
    exact precedes_trans hk hl hm
  refine ⟨fun text htext => ?_, fun a ha b hb => ?_, htrans, ?_, ?_, ?_⟩
  · obtain ⟨kind, hkind⟩ := htexts text htext
    exact leading_of_hasKind hkind
  · obtain ⟨k, hk⟩ := htexts a ha
    obtain ⟨l, hl⟩ := htexts b hb
    exact precedes_total hk hl
  · rintro a ha b hb c hc ⟨hab, hba⟩ ⟨hbc, hcb⟩
    exact ⟨htrans a ha b hb c hc hab hbc, htrans c hc b hb a ha hcb hba⟩
  · intro a _ b _ k l hk hl hrank
    rw [precedes_iff_place_le hk hl, precedes_iff_place_le hl hk, not_le]
    exact ⟨(place_lt_of_rank_lt a b hrank).le, place_lt_of_rank_lt a b hrank⟩
  · exact fun index rows hrows => sortRows_of_kinds fun row hrow => htexts _ (hrows row hrow)

/-- A plus sign in front of a number makes a circle. -/
example : Precedes "+10" "," ∧ Precedes "," "5" ∧ ¬ Precedes "+10" "5" := by
  decide +kernel

def measurements : List String :=
  ["n/a", "10 kg", "", "-2.5", "9", "(lost)"]

/-- The empty text and a remark in brackets go before all numbers, the other remark goes last. -/
theorem compare_of_kinds_measurements :
    (∀ text ∈ measurements, ∃ kind, HasKind text kind) ∧
      (Precedes "(lost)" "-2.5" ∧ ¬ Precedes "-2.5" "(lost)") ∧
      (Precedes "10 kg" "n/a" ∧ ¬ Precedes "n/a" "10 kg") ∧
      ∃ sorted, sortRows 0 false (measurements.map fun text => [some text]) = .ok sorted ∧
        sorted.Pairwise fun r s => Precedes (cellAt r 0) (cellAt s 0) := by
  have hempty : HasKind "" .low := ⟨by decide +kernel, by simp⟩
  have hlost : HasKind "(lost)" .low := ⟨by decide +kernel, by simp⟩
  have hminus : HasKind "-2.5" .number :=
    ⟨⟨.finite true (5 * Nat.pow 2 1073), by decide +kernel⟩, '-', by decide +kernel⟩
  have hnine : HasKind "9" .number :=
    ⟨⟨.finite false (9 * Nat.pow 2 1074), by decide +kernel⟩, '9', by decide +kernel⟩
  have hten : HasKind "10 kg" .number :=
    ⟨⟨.finite false (10 * Nat.pow 2 1074), by decide +kernel⟩, '1', by decide +kernel⟩
  have hnone : HasKind "n/a" .high := ⟨by decide +kernel, 'n', by decide +kernel⟩
  have hkinds : ∀ text ∈ measurements, ∃ kind, HasKind text kind := by
    simp only [measurements, List.forall_mem_cons]
    exact ⟨⟨_, hnone⟩, ⟨_, hten⟩, ⟨_, hempty⟩, ⟨_, hminus⟩, ⟨_, hnine⟩, ⟨_, hlost⟩, by simp⟩
  have hrows : ∀ row ∈ measurements.map (fun text => [some text]),
      cellAt row 0 ∈ {text | text ∈ measurements} := by
    intro row hrow
    obtain ⟨text, htext, rfl⟩ := List.mem_map.1 hrow
    exact htext
  have htexts : ∀ text ∈ {text | text ∈ measurements}, ∃ kind, HasKind text kind := hkinds
  obtain ⟨-, -, -, -, hapart, hsort⟩ := compare_of_kinds htexts
  obtain ⟨sorted, hsorted, -, hpairwise⟩ := hsort 0 _ hrows
  have hwords : "(lost)" ∈ measurements ∧ "n/a" ∈ measurements := by decide
  have hnumbers : "-2.5" ∈ measurements ∧ "10 kg" ∈ measurements := by decide
  exact ⟨hkinds, hapart _ hwords.1 _ hnumbers.1 _ _ hlost hminus (by decide),
    hapart _ hnumbers.2 _ hwords.2 _ _ hten hnone (by decide), sorted, hsorted, hpairwise⟩

end TableTalk.Query

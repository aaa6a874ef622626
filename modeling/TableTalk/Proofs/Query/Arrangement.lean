import Mathlib.Data.List.Chain
import TableTalk.Query.Order

/-!
# Arrangements of rows

An arrangement puts the rows kept by a query, given by their numbers in the table, into the order
wanted: no row stands right before one that it may not stand before, and rows that compare as equal
keep the order of the table. Cells with and without a number may compare in a circle; where the
comparison is a total preorder there is exactly one arrangement, and stable sorting finds it.
-/

namespace TableTalk.Query

structure TotalPreorder (cells : List SortCell) : Prop where
  total : ∀ a ∈ cells, ∀ b ∈ cells, SortCell.fits false a b = true ∨ SortCell.fits false b a = true
  trans : ∀ a ∈ cells, ∀ b ∈ cells, ∀ c ∈ cells, SortCell.fits false a b = true →
    SortCell.fits false b c = true → SortCell.fits false a c = true

/-- The order of the rows with the numbers in `kept` by their cells. -/
structure IsArrangement (cell : Nat → SortCell) (descending : Bool) (kept order : List Nat) :
    Prop where
  perm : order.Perm kept
  chain : order.IsChain fun a b => SortCell.fits descending (cell a) (cell b) = true
  stable : order.Pairwise fun a b => SortCell.fits descending (cell a) (cell b) = true →
    SortCell.fits descending (cell b) (cell a) = true → a < b

namespace TotalPreorder

variable {cells : List SortCell} {a b c : SortCell}

/-- A descending comparison is the ascending one the other way around. -/
theorem fits_total (h : TotalPreorder cells) (descending : Bool) (ha : a ∈ cells)
    (hb : b ∈ cells) :
    SortCell.fits descending a b = true ∨ SortCell.fits descending b a = true := by
  cases descending with
  | false => exact h.total a ha b hb
  | true => exact h.total b hb a ha

theorem fits_trans (h : TotalPreorder cells) (descending : Bool) (ha : a ∈ cells)
    (hb : b ∈ cells) (hc : c ∈ cells) (hab : SortCell.fits descending a b = true)
    (hbc : SortCell.fits descending b c = true) : SortCell.fits descending a c = true := by
  cases descending with
  | false => exact h.trans a ha b hb c hc hab hbc
  | true => exact h.trans c hc b hb a ha hbc hab

end TotalPreorder

/-- Neighbours in order are in order throughout if the comparison goes on from one to the next. -/
theorem pairwise_of_isChain {α : Type} {r : α → α → Prop} {l : List α}
    (htrans : ∀ a ∈ l, ∀ b ∈ l, ∀ c ∈ l, r a b → r b c → r a c) (h : l.IsChain r) :
    l.Pairwise r := by
  induction l with
  | nil => exact List.Pairwise.nil
  | cons a l ih =>
    have htail : l.Pairwise r := by
      apply ih _ h.tail
      intro x hx y hy z hz
      exact htrans x (List.mem_cons_of_mem a hx) y (List.mem_cons_of_mem a hy) z
        (List.mem_cons_of_mem a hz)
    cases l with
    | nil => exact List.pairwise_singleton r a
    | cons b l =>
      have hab : r a b := (List.isChain_cons_cons.1 h).1
      refine List.pairwise_cons.2 ⟨fun x hx => ?_, htail⟩
      rcases List.mem_cons.1 hx with rfl | hx
      · exact hab
      · have hbx : r b x := List.rel_of_pairwise_cons htail hx
        exact htrans a (by simp) b (by simp) x (by simp [hx]) hab hbx

section Rows

variable {cell : Nat → SortCell} {descending : Bool} {kept order other : List Nat}

/-- Each row of an arrangement may stand before all the later ones, and comes before those of them
that compare as equal to it in the table too. -/
theorem IsArrangement.pairwise (hcells : TotalPreorder (kept.map cell))
    (horder : IsArrangement cell descending kept order) :
    order.Pairwise fun a b => SortCell.fits descending (cell a) (cell b) = true ∧
      (SortCell.fits descending (cell b) (cell a) = true → a < b) := by
  have hmem : ∀ a ∈ order, cell a ∈ kept.map cell :=
    fun a ha => List.mem_map_of_mem (horder.perm.mem_iff.1 ha)
  have hfits := pairwise_of_isChain (fun a ha b hb c hc hab hbc =>
    hcells.fits_trans descending (hmem a ha) (hmem b hb) (hmem c hc) hab hbc) horder.chain
  apply (hfits.and horder.stable).imp
  intro a b h
  exact ⟨h.1, h.2 h.1⟩

/-- At most one list of rows is an arrangement. -/
theorem IsArrangement.eq (hcells : TotalPreorder (kept.map cell))
    (horder : IsArrangement cell descending kept order)
    (hother : IsArrangement cell descending kept other) : order = other := by
  apply List.Perm.eq_of_pairwise _ (horder.pairwise hcells) (hother.pairwise hcells)
    (horder.perm.trans hother.perm.symm)
  rintro a b _ _ ⟨hab, hlt⟩ ⟨hba, hgt⟩
  exact absurd (hlt hba) (Nat.not_lt.2 (Nat.le_of_lt (hgt hab)))

/-- Numbers in ascending order are in the order of their places. -/
theorem le_of_mem_zipIdx (hkept : kept.Pairwise (· < ·)) {a b : { i // i ∈ kept }} {m n : Nat}
    (ha : (a, m) ∈ kept.attach.zipIdx) (hb : (b, n) ∈ kept.attach.zipIdx) (hmn : m ≤ n) :
    a.val ≤ b.val := by
  obtain ⟨hm, ha⟩ := List.mem_zipIdx' ha
  obtain ⟨hn, hb⟩ := List.mem_zipIdx' hb
  rw [ha, hb, List.getElem_attach, List.getElem_attach]
  rw [List.length_attach] at hm hn
  rcases Nat.eq_or_lt_of_le hmn with rfl | hlt
  · exact Nat.le_refl _
  · exact Nat.le_of_lt (List.pairwise_iff_getElem.1 hkept m n hm hn hlt)

/-- Stable sorting compares as if each row were told apart by its place in the table. -/
theorem pairwise_mergeSort_fits (descending : Bool) (hcells : TotalPreorder (kept.map cell))
    (hkept : kept.Pairwise (· < ·)) :
    (kept.mergeSort fun a b => SortCell.fits descending (cell a) (cell b)).Pairwise fun a b =>
      SortCell.fits descending (cell a) (cell b) = true ∧
        (SortCell.fits descending (cell b) (cell a) = true → a ≤ b) := by
  -- The comparison is a total preorder on the rows kept only, so these are sorted as a subtype.
  let le : { i // i ∈ kept } → { i // i ∈ kept } → Bool := fun a b =>
    SortCell.fits descending (cell a.val) (cell b.val)
  have hmem : ∀ a : { i // i ∈ kept }, cell a.val ∈ kept.map cell :=
    fun a => List.mem_map_of_mem a.property
  have htrans : ∀ a b c, le a b = true → le b c = true → le a c = true := fun a b c =>
    hcells.fits_trans descending (hmem a) (hmem b) (hmem c)
  have htotal : ∀ a b, (le a b || le b a) = true := fun a b =>
    Bool.or_eq_true_iff.2 (hcells.fits_total descending (hmem a) (hmem b))
  let sorted := kept.attach.zipIdx.mergeSort (List.zipIdxLE le)
  have hsorted : sorted.Pairwise fun p p' => List.zipIdxLE le p p' = true :=
    List.pairwise_mergeSort (List.zipIdxLE_trans htrans) (List.zipIdxLE_total htotal) _
  have hmap : (kept.mergeSort fun a b => SortCell.fits descending (cell a) (cell b)) =
      sorted.map fun p => p.1.val :=
    calc
      _ = (kept.attach.map Subtype.val).mergeSort fun a b =>
            SortCell.fits descending (cell a) (cell b) := by rw [List.attach_map_subtype_val]
      _ = (kept.attach.mergeSort le).map Subtype.val :=
        (List.map_mergeSort (f := Subtype.val) (r := le) fun _ _ _ _ => rfl).symm
      _ = (sorted.map fun p => p.1).map Subtype.val := by rw [List.mergeSort_zipIdx]
      _ = sorted.map fun p => p.1.val := by rw [List.map_map]; rfl
  rw [hmap, List.pairwise_map]
  apply hsorted.imp_of_mem
  intro p p' hp hp' hle
  have hp := List.mem_mergeSort.1 hp
  have hp' := List.mem_mergeSort.1 hp'
  rw [List.zipIdxLE] at hle
  split at hle
  · next hfits =>
    refine ⟨hfits, fun hback => ?_⟩
    rw [if_pos (show le p'.1 p.1 = true from hback), decide_eq_true_eq] at hle
    exact le_of_mem_zipIdx hkept hp hp' hle
  · exact absurd hle (by decide)

/-- Stable sorting of rows in the order of the table gives an arrangement of them. -/
theorem isArrangement_mergeSort (descending : Bool) (hcells : TotalPreorder (kept.map cell))
    (hkept : kept.Pairwise (· < ·)) :
    IsArrangement cell descending kept
      (kept.mergeSort fun a b => SortCell.fits descending (cell a) (cell b)) := by
  let order := kept.mergeSort fun a b => SortCell.fits descending (cell a) (cell b)
  have hperm : order.Perm kept := List.mergeSort_perm kept _
  have hpairwise := pairwise_mergeSort_fits descending hcells hkept
  have hnodup : order.Pairwise (· ≠ ·) :=
    (hperm.pairwise_iff fun h => Ne.symm h).2 (hkept.imp Nat.ne_of_lt)
  refine ⟨hperm, (hpairwise.imp fun h => h.1).isChain, ?_⟩
  apply (hpairwise.and hnodup).imp
  rintro a b ⟨⟨_, hle⟩, hne⟩ _ hback
  exact Nat.lt_of_le_of_ne (hle hback) hne

end Rows

end TableTalk.Query

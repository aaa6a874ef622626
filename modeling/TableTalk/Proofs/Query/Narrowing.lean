import TableTalk.Proofs.Query.Refusal

/-!
# Filtering and sorting

Filtering the rows of a table and then sorting what is left gives the same as sorting all rows and
then filtering: the filter takes rows out of the order without moving the others, in either
direction and among rows that compare as equal.
-/

namespace TableTalk.Query

open Text

section Arrangements

variable {cells cells' : List SortCell} {cell : Nat → SortCell} {descending : Bool}
  {rows order : List Nat}

theorem TotalPreorder.of_subset (h : TotalPreorder cells) (hsub : cells' ⊆ cells) :
    TotalPreorder cells' where
  total a ha b hb := h.total a (hsub ha) b (hsub hb)
  trans a ha b hb c hc := h.trans a (hsub ha) b (hsub hb) c (hsub hc)

/-- What a filter leaves of an arrangement is an arrangement of what it leaves of the rows. -/
theorem IsArrangement.filter (hcells : TotalPreorder (rows.map cell))
    (horder : IsArrangement cell descending rows order) (p : Nat → Bool) :
    IsArrangement cell descending (rows.filter p) (order.filter p) where
  perm := horder.perm.filter p
  chain := (((horder.pairwise hcells).filter p).imp fun h => h.1).isChain
  stable := horder.stable.filter p

/-- Sorting the rows that a filter leaves gives what it leaves of the sorted rows. -/
theorem mergeSort_filter (hcells : TotalPreorder (rows.map cell)) (hrows : rows.Pairwise (· < ·))
    (p : Nat → Bool) :
    ((rows.filter p).mergeSort fun a b => SortCell.fits descending (cell a) (cell b)) =
      (rows.mergeSort fun a b => SortCell.fits descending (cell a) (cell b)).filter p := by
  have hleft : TotalPreorder ((rows.filter p).map cell) :=
    hcells.of_subset (List.map_subset cell (List.filter_subset_self rows))
  exact (isArrangement_mergeSort descending hleft (hrows.filter p)).eq hleft
    ((isArrangement_mergeSort descending hcells hrows).filter hcells p)

end Arrangements

section Queries

variable {t : Table} {q q' : Query}

def shownRow (t : Table) (q : Query) (row : Nat) : List String :=
  (shown t q).map (textAt t row)

/-- The sort column, if there is one, can be read throughout, and its cells compare as a total
preorder. -/
def HasOrderedColumn (t : Table) (q : Query) : Prop :=
  ∀ index descending, sortedBy t q = some (index, descending) →
    (∀ row < t.rows.length, ¬ Fails (leading (textAt t row index))) ∧
      TotalPreorder ((List.range t.rows.length).map (sortCellAt t index))

structure IsRowOrder (t : Table) (q : Query) (order : List Nat) : Prop where
  sorted : ∀ index descending, sortedBy t q = some (index, descending) →
    IsArrangement (sortCellAt t index) descending (List.range t.rows.length) order
  unsorted : sortedBy t q = none → order = List.range t.rows.length

def rowOrder (t : Table) (q : Query) : List Nat :=
  match sortedBy t q with
  | some (index, descending) => (List.range t.rows.length).mergeSort fun a b =>
      SortCell.fits descending (sortCellAt t index a) (sortCellAt t index b)
  | none => List.range t.rows.length

theorem isRowOrder_rowOrder (hcolumn : HasOrderedColumn t q) : IsRowOrder t q (rowOrder t q) where
  sorted index descending hby := by
    rw [rowOrder, hby]
    exact isArrangement_mergeSort descending (hcolumn index descending hby).2
      List.pairwise_lt_range
  unsorted hby := by rw [rowOrder, hby]

theorem not_hasUnreadableCell (hcolumn : HasOrderedColumn t q) : ¬ HasUnreadableCell t q := by
  rintro ⟨index, descending, hby, -, row, hrow, hdotted⟩
  have hlt : row < t.rows.length := List.mem_range.1 (List.mem_of_mem_filter hrow)
  exact (hcolumn index descending hby).1 row hlt (fails_leading_iff.2 hdotted)

/-- Without a limit the answer has the rows that meet the filter in the order of all rows. -/
theorem answer_of_hasOrderedColumn (hne : t.headers ≠ []) (hlimit : q.limit = none)
    (hcolumn : HasOrderedColumn t q) :
    ∃ columns, (shown t q).map (fun column => t.headers[column]?) = columns.map some ∧
      answer false t q =
        .ok ⟨columns, ((rowOrder t q).filter (meets t q)).map (shownRow t q)⟩ := by
  obtain ⟨p, hplan⟩ := exists_plan hne q
  obtain ⟨hprojection, hfilter, hsort, hcolumns⟩ := plan_eq_ok hplan
  obtain ⟨ans, hans⟩ := exists_eq_ok (mt (fails_answer_iff hne).1 (not_hasUnreadableCell hcolumn))
  have hanswer := hans
  rw [answer_of_orderRows hplan, hfilter, hsort, filterRows_eq] at hans
  obtain ⟨rows, hrows, rfl⟩ := map_eq_ok_iff.1 hans
  obtain ⟨order, rfl, hsorted, hunsorted⟩ := orderRows_kept hrows
  have horder : order = (rowOrder t q).filter (meets t q) := by
    cases hby : sortedBy t q with
    | none => rw [hunsorted hby, rowOrder, hby, kept]
    | some key =>
      obtain ⟨index, descending⟩ := key
      rw [hsorted index descending hby, rowOrder, hby, kept]
      exact mergeSort_filter (hcolumn index descending hby).2 List.pairwise_lt_range (meets t q)
  have hproject : project p.projection ∘ rowAt t = shownRow t q := by
    funext row
    rw [Function.comp_apply, project, shownRow, shown, List.map_map, hprojection]
    rfl
  refine ⟨p.columns, ?_, ?_⟩
  · rw [← hcolumns, hprojection, shown, List.map_map]
    rfl
  · rw [hanswer, hlimit, limitRows, List.map_map, hproject, horder]

/-- A query that differs in its filter only sorts by the same column in the same direction. -/
theorem sortedBy_congr (t : Table) (hsort : q'.sort = q.sort) : sortedBy t q' = sortedBy t q := by
  simp only [sortedBy, hsort]

theorem meets_of_none (hfilter : q.filter = none) (row : Nat) : meets t q row = true := by
  simp only [meets, hfilter]

/-- A filter takes the rows that do not meet it out of the answer and leaves the others as they
stand there. -/
theorem evaluate_narrowed {text text' : String} (hne : t.headers ≠ [])
    (hparse : parse text = .ok (some q)) (hparse' : parse text' = .ok (some q'))
    (hfilter : q.filter = none) (hlimit : q.limit = none) (hlimit' : q'.limit = none)
    (hprojection : q'.projection = q.projection) (hsort : q'.sort = q.sort)
    (hcolumn : HasOrderedColumn t q) :
    ∃ columns order, IsRowOrder t q order ∧
      evaluate false t text = .ok ⟨columns, order.map (shownRow t q)⟩ ∧
      evaluate false t text' =
        .ok ⟨columns, (order.filter (meets t q')).map (shownRow t q)⟩ := by
  have hby := sortedBy_congr t hsort
  have hcolumn' : HasOrderedColumn t q' := by rwa [HasOrderedColumn, hby]
  have hshown : shown t q' = shown t q := by rw [shown, hprojection, shown]
  have horder : rowOrder t q' = rowOrder t q := by rw [rowOrder, hby, rowOrder]
  have hrow : shownRow t q' = shownRow t q := by
    funext row
    rw [shownRow, hshown, shownRow]
  obtain ⟨columns, hcolumns, hanswer⟩ := answer_of_hasOrderedColumn hne hlimit hcolumn
  obtain ⟨columns', hcolumns', hanswer'⟩ := answer_of_hasOrderedColumn hne hlimit' hcolumn'
  rw [hshown, hcolumns] at hcolumns'
  obtain rfl := List.map_injective_iff.2 (fun _ _ => Option.some.inj) hcolumns'
  rw [List.filter_eq_self.2 fun row _ => meets_of_none hfilter row] at hanswer
  rw [horder, hrow] at hanswer'
  refine ⟨columns, rowOrder t q, isRowOrder_rowOrder hcolumn, ?_, ?_⟩
  · rw [evaluate_of_parse_some hparse, hanswer]
  · rw [evaluate_of_parse_some hparse', hanswer']

end Queries

def scores : Table where
  headers := ["Name", "Score", "Town"]
  rows := [[some "Ann", some "7", some "Oslo"], [some "Bob", some "7", some "Rome"],
    [some "Cid", some "19", some "Oslo"], [some "Dan", some "7", some "Oslo"]]

def scoresText : String :=
  "SELECT score FROM t ORDER BY score DESC"

def osloText : String :=
  "SELECT score FROM t WHERE town = 'oslo' ORDER BY score DESC"

/-- Rows that look alike and compare as equal are told apart by a column that is not shown. -/
theorem evaluate_narrowed_oslo :
    ∃ q q' columns order, parse scoresText = .ok (some q) ∧ parse osloText = .ok (some q') ∧
      IsRowOrder scores q order ∧
      evaluate false scores scoresText = .ok ⟨columns, order.map (shownRow scores q)⟩ ∧
      evaluate false scores osloText =
        .ok ⟨columns, (order.filter (meets scores q')).map (shownRow scores q)⟩ := by
  let q : Query := ⟨some ["score"], none, some ⟨"score", true⟩, none⟩
  let q' : Query := { q with filter := some (.holds "town" .equals "oslo") }
  have hparse : parse scoresText = .ok (some q) := by decide +kernel
  have hparse' : parse osloText = .ok (some q') := by decide +kernel
  have hcolumn : HasOrderedColumn scores q := by
    have hby : sortedBy scores q = some (1, true) := by decide +kernel
    have hread : ∀ row < 4, (leading (textAt scores row 1)).isOk = true := by decide +kernel
    intro index descending hsome
    obtain ⟨rfl, rfl⟩ := Prod.mk.inj (Option.some.inj (hby.symm.trans hsome))
    refine ⟨fun row hrow => ?_, by decide +kernel, by decide +kernel⟩
    rintro ⟨f, hf⟩
    have hok := hread row hrow
    rw [hf] at hok
    cases hok
  obtain ⟨columns, order, horder, hall, hoslo⟩ :=
    evaluate_narrowed (by decide) hparse hparse' rfl rfl rfl rfl rfl hcolumn
  exact ⟨q, q', columns, order, hparse, hparse', horder, hall, hoslo⟩

end TableTalk.Query

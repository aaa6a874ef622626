import TableTalk.Proofs.Failure
import TableTalk.Proofs.Query.Arrangement
import TableTalk.Proofs.Text.Search
import TableTalk.Query.Evaluate

/-!
# What a query means

The rows of a table are given by their numbers. A query keeps the rows that meet its filter, puts
them into the order wanted and shows the first of them, each in the columns of the projection. An
evaluation that returns gives the answer with this meaning.
-/

namespace TableTalk.Query

open Text

section Meaning

variable (t : Table) (q : Query)

def rowAt (row : Nat) : List Cell :=
  t.rows.getD row []

def textAt (row column : Nat) : String :=
  cellAt (rowAt t row) column

/-- Whether a row has the value of the filter in the column compared, both in lower case. Every row
meets a filter of another form or on an unknown column. -/
def meets (row : Nat) : Bool :=
  match q.filter with
  | some (.holds column _ value) =>
    match resolve t.headers column with
    | .column _ index => decide (IsWithin (lower value) (lower (textAt t row index)))
    | .unknown _ => true
  | _ => true

def kept : List Nat :=
  (List.range t.rows.length).filter (meets t q)

def shown : List Nat :=
  (resolveProjection t.headers q.projection).map Resolution.index

def sortedBy : Option (Nat × Bool) :=
  match q.sort with
  | none => none
  | some key =>
    match resolve t.headers key.column with
    | .column _ index => some (index, key.descending)
    | .unknown _ => none

end Meaning

/-- A cell with the number it starts with, if that can be read. -/
def sortCell (text : String) : SortCell :=
  ⟨text, (leading text).toOption.getD none⟩

def sortCellAt (t : Table) (column row : Nat) : SortCell :=
  sortCell (textAt t row column)

theorem map_rowAt_range (t : Table) : (List.range t.rows.length).map (rowAt t) = t.rows := by
  apply List.ext_getElem
  · simp
  · intro i hi hi'
    simp [rowAt, hi']

theorem pairwise_kept (t : Table) (q : Query) : (kept t q).Pairwise (· < ·) :=
  List.pairwise_lt_range.filter _

theorem filterRows_eq (t : Table) (q : Query) :
    filterRows q.filter (resolveFilter t.headers q.filter) t.rows = (kept t q).map (rowAt t) := by
  have hall : (∀ row, meets t q row = true) → t.rows = (kept t q).map (rowAt t) := by
    intro hmeets
    rw [kept, List.filter_eq_self.2 fun row _ => hmeets row, map_rowAt_range]
  cases hfilter : q.filter with
  | none => exact hall fun row => by rw [meets, hfilter]
  | some filter =>
    cases filter with
    | uninterpreted clause => exact hall fun row => by rw [meets, hfilter]
    | holds column operator value =>
      cases hresolve : resolve t.headers column with
      | unknown name =>
        rw [resolveFilter, hresolve]
        exact hall fun row => by simp only [meets, hfilter, hresolve]
      | column name index =>
        have hpasses : passes index value ∘ rowAt t = meets t q := by
          funext row
          rw [Bool.eq_iff_iff, Function.comp_apply, passes, contains_eq_true_iff]
          simp only [meets, hfilter, hresolve, textAt]
          exact decide_eq_true_iff.symm
        rw [resolveFilter, hresolve]
        calc
          t.rows.filter (passes index value) =
              ((List.range t.rows.length).map (rowAt t)).filter (passes index value) := by
            rw [map_rowAt_range]
          _ = (kept t q).map (rowAt t) := by rw [List.filter_map, hpasses, kept]

theorem sortEntry_eq_ok {index : Nat} {row : List Cell} {entry : SortCell × List Cell}
    (h : sortEntry index row = .ok entry) : entry = (sortCell (cellAt row index), row) := by
  obtain ⟨number, hnumber, h⟩ := bind_eq_ok h
  rw [← Except.ok.inj h, sortCell, hnumber]
  rfl

/-- Sorting rows that are given by numbers sorts the numbers. -/
theorem sortRows_map {index : Nat} {descending : Bool} {row : Nat → List Cell} {l : List Nat}
    {rows : List (List Cell)} (h : sortRows index descending (l.map row) = .ok rows) :
    rows = (l.mergeSort fun a b => SortCell.fits descending (sortCell (cellAt (row a) index))
      (sortCell (cellAt (row b) index))).map row := by
  rw [sortRows, List.length_map] at h
  split at h
  · next hlength =>
    have hsort : ∀ le, l.mergeSort le = l := by
      intro le
      match l, hlength with
      | [], _ => exact List.mergeSort_nil
      | [a], _ => exact List.mergeSort_singleton a
    rw [hsort, ← Except.ok.inj h]
  · obtain ⟨entries, hentries, h⟩ := bind_eq_ok h
    let entry : Nat → SortCell × List Cell := fun a => (sortCell (cellAt (row a) index), row a)
    have hentry : entries = l.map entry := by
      rw [mapM_eq_ok (fun _ _ => sortEntry_eq_ok) hentries, List.map_map]
      rfl
    have hsort : (l.mergeSort fun a b => SortCell.fits descending (entry a).1 (entry b).1).map
        entry = (l.map entry).mergeSort fun a b => SortCell.fits descending a.1 b.1 :=
      List.map_mergeSort fun _ _ _ _ => rfl
    rw [← Except.ok.inj h, hentry, ← hsort, List.map_map]
    rfl

theorem plan_eq_ok {headers : List String} {q : Query} {p : Plan}
    (h : plan false headers q = .ok p) :
    p.projection = resolveProjection headers q.projection ∧
      p.filter = resolveFilter headers q.filter ∧ p.sort = resolveSort headers q.sort ∧
      p.projection.map (fun r => headers[r.index]?) = p.columns.map some := by
  rw [plan, Bool.false_and, if_neg (by decide)] at h
  split at h
  · exact absurd h (by simp)
  · next columns hcolumns =>
    rw [← Except.ok.inj h]
    exact ⟨rfl, rfl, rfl, mapM_eq_some hcolumns⟩

theorem limitRows_map (limit : Option Nat) (order : List Nat) (row : Nat → List Cell) :
    limitRows limit (order.map row) = (limit.elim order order.take).map row := by
  cases limit with
  | none => rfl
  | some n => exact (List.map_take).symm

theorem orderRows_resolveSort (t : Table) (q : Query) (rows : List (List Cell)) :
    orderRows q.sort (resolveSort t.headers q.sort) rows =
      match sortedBy t q with
      | some (index, descending) => sortRows index descending rows
      | none => .ok rows := by
  cases hsort : q.sort with
  | none => simp only [sortedBy, hsort, orderRows]
  | some key =>
    cases hresolve : resolve t.headers key.column <;>
      simp only [sortedBy, hsort, resolveSort, Option.map_some, hresolve, orderRows]

/-- The order in which the rows kept are shown, before the limit. -/
theorem orderRows_kept {t : Table} {q : Query} {rows : List (List Cell)}
    (h : orderRows q.sort (resolveSort t.headers q.sort) ((kept t q).map (rowAt t)) = .ok rows) :
    ∃ order : List Nat, rows = order.map (rowAt t) ∧
      (∀ index descending, sortedBy t q = some (index, descending) →
        order = (kept t q).mergeSort fun a b =>
          SortCell.fits descending (sortCellAt t index a) (sortCellAt t index b)) ∧
      (sortedBy t q = none → order = kept t q) := by
  rw [orderRows_resolveSort] at h
  cases hby : sortedBy t q with
  | none =>
    rw [hby] at h
    exact ⟨kept t q, (Except.ok.inj h).symm, fun _ _ hsome => absurd hsome (by simp), fun _ => rfl⟩
  | some key =>
    rw [hby] at h
    refine ⟨_, sortRows_map h, ?_, fun hnone => absurd hnone (by simp)⟩
    intro _ _ hsome
    obtain ⟨rfl, rfl⟩ := Prod.mk.inj (Option.some.inj hsome)
    rfl

/-- An evaluation that returns gives the answer that the query means: the rows kept, in the only
order there is if the cells of the sort column compare as a total preorder, cut to the limit. -/
theorem evaluate_refines {t : Table} {text : String} {q : Query} {ans : Answer}
    (hparse : parse text = .ok (some q)) (hans : evaluate false t text = .ok ans) :
    (shown t q).map (fun column => t.headers[column]?) = ans.columns.map some ∧
      ∃ order : List Nat,
        ans.rows = (q.limit.elim order order.take).map (fun row => (shown t q).map (textAt t row)) ∧
        (∀ index descending, sortedBy t q = some (index, descending) →
          TotalPreorder ((kept t q).map (sortCellAt t index)) →
          IsArrangement (sortCellAt t index) descending (kept t q) order ∧
            ∀ other, IsArrangement (sortCellAt t index) descending (kept t q) other →
              other = order) ∧
        (sortedBy t q = none → order = kept t q) := by
  obtain ⟨parsed, hparsed, hanswer⟩ := bind_eq_ok hans
  rw [hparse] at hparsed
  obtain rfl := Except.ok.inj hparsed
  obtain ⟨p, hp, hanswer⟩ := bind_eq_ok hanswer
  obtain ⟨rows, hrows, hanswer⟩ := bind_eq_ok hanswer
  obtain rfl := Except.ok.inj hanswer
  obtain ⟨hprojection, hfilter, hsort, hcolumns⟩ := plan_eq_ok hp
  rw [hfilter, hsort, filterRows_eq] at hrows
  obtain ⟨order, rfl, hsorted, hunsorted⟩ := orderRows_kept hrows
  rw [hprojection] at hcolumns
  refine ⟨?_, order, ?_, ?_, hunsorted⟩
  · rw [shown, List.map_map]
    exact hcolumns
  · have hproject : project p.projection ∘ rowAt t = fun row => (shown t q).map (textAt t row) := by
      funext row
      rw [Function.comp_apply, project, shown, List.map_map, hprojection]
      rfl
    rw [limitRows_map, List.map_map, hproject]
  · intro index descending hby hcells
    have harranged := isArrangement_mergeSort descending hcells (pairwise_kept t q)
    rw [← hsorted index descending hby] at harranged
    exact ⟨harranged, fun other hother => hother.eq hcells harranged⟩

def roster : Table where
  headers := ["Name", "Score"]
  rows := [[some "Ann", some "3"], [some "Ben", some "10"], [some "Nia"], [some "Bob", some "7"],
    [some "Dan", some "10.0"]]

def rosterText : String :=
  "select name from t where name like '%n%' order by score desc limit 3"

theorem evaluate_refines_tie :
    evaluate false roster rosterText = .ok ⟨["Name"], [["Ben"], ["Dan"], ["Ann"]]⟩ := by
  let q : Query := ⟨some ["name"], some (.holds "name" .like "n"), some ⟨"score", true⟩, some 3⟩
  have hparse : parse rosterText = .ok (some q) := by decide +kernel
  have hreturns : (evaluate false roster rosterText).isOk = true := by decide +kernel
  cases hans : evaluate false roster rosterText with
  | error e =>
    rw [hans] at hreturns
    cases hreturns
  | ok ans =>
    obtain ⟨hcolumns, order, hrows, hsorted, _⟩ := evaluate_refines hparse hans
    have hcells : TotalPreorder ((kept roster q).map (sortCellAt roster 1)) :=
      ⟨by decide +kernel, by decide +kernel⟩
    have hexpected : IsArrangement (sortCellAt roster 1) true (kept roster q) [1, 4, 0, 2] :=
      ⟨by decide +kernel, by decide +kernel, by decide +kernel⟩
    obtain ⟨_, hunique⟩ := hsorted 1 true (by decide +kernel) hcells
    rw [← hunique _ hexpected] at hrows
    have hname : ["Name"].map some = ans.columns.map some := hcolumns ▸ by decide +kernel
    have hshown : ans.rows = [["Ben"], ["Dan"], ["Ann"]] := hrows.trans (by decide +kernel)
    rw [← hshown, List.map_injective_iff.2 (fun _ _ => Option.some.inj) hname]

end TableTalk.Query

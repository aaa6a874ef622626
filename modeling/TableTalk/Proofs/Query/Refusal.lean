import TableTalk.Proofs.Csv.Scan
import TableTalk.Proofs.Query.Occurrence
import TableTalk.Proofs.Query.Refinement
import TableTalk.Proofs.Query.SortCell
import TableTalk.Proofs.Query.Strictness

/-!
# Evaluations that fail

A lenient evaluation on a table that was read from CSV text fails for two reasons: the first limit
in the query text has too many digits, or rows are to be sorted by a column in which one of them has
a cell that cannot be read. Otherwise it returns, and its answer is rectangular.
-/

namespace TableTalk.Query

open Text

def HasHugeLimit (text : String) : Prop :=
  ∃ digits, IsFirstLimit digits (normalize text) ∧ digitLimit < digits.length

/-- The rows of a table that meet the filter of a query are sorted, there are two at least, and the
number at the start of the sort cell of one of them cannot be read. -/
def HasUnreadableCell (t : Table) (q : Query) : Prop :=
  ∃ index descending, sortedBy t q = some (index, descending) ∧ 2 ≤ (kept t q).length ∧
    ∃ row ∈ kept t q, IsDottedInfinity (textAt t row index)

def IsRefused (t : Table) (text : String) : Prop :=
  selectWord <:+: normalize text ∧
    (HasHugeLimit text ∨ ∃ q, parse text = .ok (some q) ∧ HasUnreadableCell t q)

theorem fails_limitOf_iff {digits : List Char} :
    Fails (limitOf digits) ↔ digitLimit < digits.length := by
  rw [limitOf]
  split
  · next hle => exact iff_of_false (not_fails_ok _) (Nat.not_lt.2 hle)
  · next hgt => exact iff_of_true (fails_error _) (Nat.lt_of_not_le hgt)

theorem fails_parseNormal_iff {cs : List Char} :
    Fails (parseNormal cs) ↔ ∃ digits, IsFirstLimit digits cs ∧ digitLimit < digits.length := by
  simp only [← limitDigits_eq_some_iff, ← fails_limitOf_iff]
  rw [parseNormal, fails_bind_pure_iff]
  cases limitDigits cs with
  | none => simp [pure, Except.pure]
  | some digits =>
    rw [Option.mapM_some]
    refine fails_map_iff.trans ⟨fun h => ⟨digits, rfl, h⟩, ?_⟩
    rintro ⟨_, ⟨⟩, h⟩
    exact h

theorem fails_parse_iff {text : String} :
    Fails (parse text) ↔ selectWord <:+: normalize text ∧ HasHugeLimit text := by
  rw [parse, HasHugeLimit, ← fails_parseNormal_iff, ← occurs_eq_true_iff, ← isQuery]
  split
  · next hquery => rw [fails_map_iff, and_iff_right hquery]
  · next hno => exact iff_of_false (not_fails_ok none) fun h => hno h.1

theorem select_of_parse {text : String} {q : Query} (h : parse text = .ok (some q)) :
    selectWord <:+: normalize text := by
  rw [parse] at h
  split at h
  · next hquery => exact occurs_eq_true_iff.1 hquery
  · cases h

/-- A text is a query if its lower-case form holds the word `select`. -/
theorem isSome_of_parse {text : String} {q : Option Query} (h : parse text = .ok q) :
    q.isSome = contains (lower text) "select" := by
  have hcontains : contains (lower text) "select" = isQuery text := by
    rw [Bool.eq_iff_iff, contains, lower]
    change occurs selectWord _ = true ↔ _
    rw [isQuery, occurs_eq_true_iff, occurs_eq_true_iff, normalize,
      infix_trimChars_iff (by decide) (isBlank_of_all rfl), String.toList_ofList]
  rw [hcontains]
  rw [parse] at h
  split at h
  · next hquery =>
    obtain ⟨q', -, rfl⟩ := map_eq_ok_iff.1 h
    exact hquery.symm
  · next hno =>
    rw [← Except.ok.inj h, Bool.eq_false_iff.2 hno]
    rfl

theorem index_lt_of_resolve {headers : List String} (hne : headers ≠ []) (name : String) :
    (resolve headers name).index < headers.length := by
  rw [resolve]
  split
  · next index hfind => exact (List.findIdx?_eq_some_iff_getElem.1 hfind).1
  · exact List.length_pos_iff.2 hne

theorem index_lt_of_mem_resolveProjection {headers : List String} (hne : headers ≠ [])
    {projection : Option (List String)} {r : Resolution}
    (hr : r ∈ resolveProjection headers projection) : r.index < headers.length := by
  cases projection with
  | none =>
    obtain ⟨⟨header, index⟩, hmem, rfl⟩ := List.mem_map.1 hr
    exact List.snd_lt_of_mem_zipIdx hmem
  | some names =>
    obtain ⟨name, -, rfl⟩ := List.mem_map.1 hr
    exact index_lt_of_resolve hne name

theorem exists_plan {headers : List String} (hne : headers ≠ []) (q : Query) :
    ∃ p, plan false headers q = .ok p := by
  have hcolumns : ∀ r ∈ resolveProjection headers q.projection, ∃ c, headers[r.index]? = some c :=
    fun r hr => ⟨_, List.getElem?_eq_getElem (index_lt_of_mem_resolveProjection hne hr)⟩
  obtain ⟨columns, hmapM⟩ := exists_mapM_eq_some hcolumns
  rw [plan, Bool.false_and, if_neg (by decide), hmapM]
  exact ⟨_, rfl⟩

theorem fails_sortEntry_iff {index : Nat} {row : List Cell} :
    Fails (sortEntry index row) ↔ IsDottedInfinity (cellAt row index) := by
  rw [← fails_leading_iff]
  exact fails_bind_pure_iff

theorem fails_sortRows_iff {index : Nat} {descending : Bool} {rows : List (List Cell)} :
    Fails (sortRows index descending rows) ↔
      2 ≤ rows.length ∧ ∃ row ∈ rows, IsDottedInfinity (cellAt row index) := by
  rw [sortRows]
  by_cases hlength : rows.length ≤ 1
  · rw [if_pos hlength]
    exact iff_of_false (not_fails_ok rows) fun h => absurd h.1 (by omega)
  · rw [if_neg hlength, fails_bind_pure_iff, fails_mapM_iff, and_iff_right (by omega)]
    simp only [fails_sortEntry_iff]

theorem fails_answer_iff {t : Table} (hne : t.headers ≠ []) {q : Query} :
    Fails (answer false t q) ↔ HasUnreadableCell t q := by
  obtain ⟨p, hplan⟩ := exists_plan hne q
  obtain ⟨-, hfilter, hsort, -⟩ := plan_eq_ok hplan
  rw [answer_of_orderRows hplan, fails_map_iff, hfilter, hsort, filterRows_eq,
    orderRows_resolveSort, HasUnreadableCell]
  cases hby : sortedBy t q with
  | none => simp
  | some key =>
    obtain ⟨index, descending⟩ := key
    have hrows : (∃ row ∈ (kept t q).map (rowAt t), IsDottedInfinity (cellAt row index)) ↔
        ∃ row ∈ kept t q, IsDottedInfinity (textAt t row index) := by
      simp only [List.mem_map, exists_exists_and_eq_and, textAt]
    simp only [fails_sortRows_iff, List.length_map, hrows]
    constructor
    · exact fun h => ⟨index, descending, rfl, h⟩
    · rintro ⟨_, _, ⟨⟩, h⟩
      exact h

theorem fails_evaluate_iff {t : Table} (hne : t.headers ≠ []) {text : String} :
    Fails (evaluate false t text) ↔ IsRefused t text := by
  cases hparse : parse text with
  | error f =>
    obtain ⟨hselect, hhuge⟩ := fails_parse_iff.1 ⟨f, hparse⟩
    rw [evaluate, hparse]
    exact iff_of_true (fails_error f) ⟨hselect, Or.inl hhuge⟩
  | ok parsed =>
    have hlimit : ¬ (selectWord <:+: normalize text ∧ HasHugeLimit text) := by
      rw [← fails_parse_iff, hparse]
      exact not_fails_ok parsed
    cases parsed with
    | none =>
      rw [evaluate_of_parse_none hparse]
      refine iff_of_false (not_fails_ok _) ?_
      rintro ⟨hselect, hhuge | ⟨q, hq, -⟩⟩
      · exact hlimit ⟨hselect, hhuge⟩
      · exact absurd (hparse.symm.trans hq) (by simp)
    | some q =>
      rw [evaluate_of_parse_some hparse, fails_answer_iff hne]
      constructor
      · exact fun h => ⟨select_of_parse hparse, Or.inr ⟨q, hparse, h⟩⟩
      · rintro ⟨hselect, hhuge | ⟨q', hq', h⟩⟩
        · exact absurd ⟨hselect, hhuge⟩ hlimit
        · obtain rfl := Option.some.inj (Except.ok.inj (hparse.symm.trans hq'))
          exact h

theorem length_of_mem_rows {t : Table} {text : String} {ans : Answer}
    (h : evaluate false t text = .ok ans) : ∀ row ∈ ans.rows, row.length = ans.columns.length := by
  obtain ⟨parsed, -, h⟩ := bind_eq_ok h
  cases parsed with
  | none =>
    obtain rfl := Except.ok.inj h
    simp [unsupported]
  | some q =>
    obtain ⟨p, hplan, h⟩ := bind_eq_ok h
    obtain ⟨rows, -, h⟩ := bind_eq_ok h
    obtain rfl := Except.ok.inj h
    have hcolumns : p.projection.length = p.columns.length := by
      simpa using congrArg List.length (plan_eq_ok hplan).2.2.2
    intro row hrow
    obtain ⟨cells, -, rfl⟩ := List.mem_map.1 hrow
    rw [project, List.length_map, hcolumns]

theorem length_of_sortRows {index : Nat} {descending : Bool} {rows sorted : List (List Cell)}
    (h : sortRows index descending rows = .ok sorted) : sorted.length = rows.length := by
  rw [sortRows] at h
  split at h
  · rw [← Except.ok.inj h]
  · obtain ⟨entries, hentries, h⟩ := bind_eq_ok h
    rw [← Except.ok.inj h, List.length_map, List.length_mergeSort,
      mapM_eq_ok (fun _ _ => sortEntry_eq_ok) hentries, List.length_map]

theorem length_of_orderRows {key : Option SortKey} {column : Option Resolution}
    {rows ordered : List (List Cell)} (h : orderRows key column rows = .ok ordered) :
    ordered.length = rows.length := by
  unfold orderRows at h
  split at h
  · exact length_of_sortRows h
  · rw [← Except.ok.inj h]

theorem length_filterRows_le (filter : Option Filter) (column : Option Resolution)
    (rows : List (List Cell)) : (filterRows filter column rows).length ≤ rows.length := by
  unfold filterRows
  split
  · exact List.length_filter_le _ _
  · exact Nat.le_refl _

theorem length_limitRows_le (limit : Option Nat) (rows : List (List Cell)) :
    (limitRows limit rows).length ≤ rows.length := by
  cases limit with
  | none => exact Nat.le_refl _
  | some n => exact List.length_take_le' n rows

/-- An answer has no more rows than the table, or else is the one row for a text that is no
query. -/
theorem length_rows_le {strict : Bool} {t : Table} {text : String} {ans : Answer}
    (h : evaluate strict t text = .ok ans) : ans.rows.length ≤ max 1 t.rowCount := by
  obtain ⟨parsed, -, h⟩ := bind_eq_ok h
  cases parsed with
  | none =>
    rw [← Except.ok.inj h]
    exact Nat.le_max_left 1 _
  | some q =>
    obtain ⟨p, -, h⟩ := bind_eq_ok h
    obtain ⟨rows, horder, h⟩ := bind_eq_ok h
    rw [← Except.ok.inj h]
    calc ((limitRows q.limit rows).map (project p.projection)).length
        = (limitRows q.limit rows).length := List.length_map _
      _ ≤ rows.length := length_limitRows_le q.limit rows
      _ = (filterRows q.filter p.filter t.rows).length := length_of_orderRows horder
      _ ≤ t.rowCount := length_filterRows_le q.filter p.filter t.rows
      _ ≤ max 1 t.rowCount := Nat.le_max_right 1 _

/-- A lenient evaluation on a table read from CSV text fails exactly for the queries that are
refused. For every other text it returns, and each row has as many cells as there are columns. -/
theorem evaluate_lenient {csv text : String} {t : Table} (ht : Csv.parse csv = .ok t) :
    (Fails (evaluate false t text) ↔ IsRefused t text) ∧
      (¬ IsRefused t text → ∃ ans, evaluate false t text = .ok ans ∧
        ∀ row ∈ ans.rows, row.length = ans.columns.length) := by
  have hfails : Fails (evaluate false t text) ↔ IsRefused t text :=
    fails_evaluate_iff (Csv.isRectangular_of_parse ht).ne_nil
  refine ⟨hfails, fun h => ?_⟩
  obtain ⟨ans, hans⟩ := exists_eq_ok (mt hfails.1 h)
  exact ⟨ans, hans, length_of_mem_rows hans⟩

def dottedCsv : String :=
  "Name,Score\nann,-İnfinity\nbob,7\n"

def dotted : Table where
  headers := ["Name", "Score"]
  rows := [[some "ann", some "-İnfinity"], [some "bob", some "7"]]

def dottedText : String :=
  "SELECT name FROM scores ORDER BY Score DESC"

/-- A negative infinity with a dotted capital i cannot be sorted. -/
theorem evaluate_lenient_dotted :
    Csv.parse dottedCsv = .ok dotted ∧ Fails (evaluate false dotted dottedText) := by
  let q : Query := ⟨some ["name"], none, some ⟨"score", true⟩, none⟩
  have ht : Csv.parse dottedCsv = .ok dotted := by decide +kernel
  have hselect : selectWord <:+: normalize dottedText := by decide +kernel
  have hparse : parse dottedText = .ok (some q) := by decide +kernel
  have hcell : IsDottedInfinity (textAt dotted 0 1) := by
    refine ⟨[], ['-'], "İnfinity".toList, [], rfl, Or.inr (Or.inr rfl), ?_, Or.inr ?_, ?_⟩
    all_goals decide +kernel
  have hunreadable : HasUnreadableCell dotted q :=
    ⟨1, true, by decide +kernel, by decide +kernel, 0, by decide +kernel, hcell⟩
  exact ⟨ht, (evaluate_lenient ht).1.2 ⟨hselect, Or.inr ⟨q, hparse, hunreadable⟩⟩⟩

def HasDottedCell (t : Table) : Prop :=
  ∃ row ∈ t.rows, ∃ index, IsDottedInfinity (cellAt row index)

theorem limitOf_eq_error {digits : List Char} {f : Failure} (h : limitOf digits = .error f) :
    f = .hugeNumeral digits.length := by
  rw [limitOf] at h
  split at h
  · cases h
  · exact (Except.error.inj h).symm

theorem parse_eq_error {text : String} {f : Failure} (h : parse text = .error f) :
    HasHugeLimit text ∧ ∃ digits, f = .hugeNumeral digits := by
  refine ⟨(fails_parse_iff.1 ⟨f, h⟩).2, ?_⟩
  rw [parse] at h
  split at h
  · cases hnormal : parseNormal (normalize text) with
    | ok q =>
      rw [hnormal] at h
      cases h
    | error f' =>
      rw [hnormal] at h
      obtain rfl := Except.error.inj h
      rcases bind_eq_error hnormal with hlimit | ⟨_, _, hnormal⟩
      · cases hdigits : limitDigits (normalize text) with
        | none =>
          rw [hdigits] at hlimit
          cases hlimit
        | some digits =>
          rw [hdigits, Option.mapM_some] at hlimit
          cases hof : limitOf digits with
          | ok n =>
            rw [hof] at hlimit
            cases hlimit
          | error f =>
            rw [hof] at hlimit
            obtain rfl := Except.error.inj hlimit
            exact ⟨_, limitOf_eq_error hof⟩
      · cases hnormal
  · cases h

theorem plan_eq_error {strict : Bool} {headers : List String} {q : Query} {f : Failure}
    (h : plan strict headers q = .error f) :
    (∃ names, f = .unknownColumns names) ∨ f = .noSuchPosition ∧ headers = [] := by
  by_cases hstrict : plan strict headers q = plan false headers q
  · rw [hstrict] at h
    refine Or.inr ⟨?_, ?_⟩
    · rw [plan, Bool.false_and, if_neg (by decide)] at h
      split at h
      · exact (Except.error.inj h).symm
      · cases h
    · by_contra hne
      obtain ⟨p, hp⟩ := exists_plan hne q
      rw [hp] at h
      cases h
  · cases strict with
    | false => exact absurd rfl hstrict
    | true =>
      have hmissing : missing headers q ≠ [] := mt plan_strict_of_none_missing hstrict
      rw [plan_strict_of_missing hmissing] at h
      exact Or.inl ⟨_, (Except.error.inj h).symm⟩

theorem mem_of_mem_filterRows {filter : Option Filter} {column : Option Resolution}
    {rows : List (List Cell)} {row : List Cell} (h : row ∈ filterRows filter column rows) :
    row ∈ rows := by
  unfold filterRows at h
  split at h
  · exact List.mem_of_mem_filter h
  · exact h

/-- The reasons for which an evaluation fails. -/
theorem evaluate_eq_error {strict : Bool} {t : Table} {text : String} {f : Failure}
    (h : evaluate strict t text = .error f) :
    (∃ names, f = .unknownColumns names) ∨
      (HasHugeLimit text ∧ ∃ digits, f = .hugeNumeral digits) ∨
      (HasDottedCell t ∧ ∃ cell, f = .unreadableNumber cell) ∨
      (f = .noSuchPosition ∧ t.headers = []) := by
  rcases bind_eq_error h with hparse | ⟨parsed, -, h⟩
  · exact Or.inr (Or.inl (parse_eq_error hparse))
  · cases parsed with
    | none => cases h
    | some q =>
      rcases bind_eq_error h with hplan | ⟨p, -, h⟩
      · exact (plan_eq_error hplan).imp id fun h => Or.inr (Or.inr h)
      · rcases bind_eq_error h with hrows | ⟨_, _, h⟩
        · obtain ⟨_, _, index, _, _, hsort⟩ := orderRows_eq_error hrows
          obtain ⟨-, row, hrow, hcell⟩ := sortRows_eq_error hsort
          have hdotted : HasDottedCell t :=
            ⟨row, mem_of_mem_filterRows hrow, index, fails_leading_iff.1 ⟨f, hcell⟩⟩
          exact Or.inr (Or.inr (Or.inl ⟨hdotted, leading_eq_error hcell⟩))
        · cases h

theorem isValueFailure_of_evaluate {strict : Bool} {t : Table} (hne : t.headers ≠ [])
    {text : String} {f : Failure} (h : evaluate strict t text = .error f) :
    f.isValueFailure = true := by
  rcases evaluate_eq_error h with
    ⟨names, rfl⟩ | ⟨-, digits, rfl⟩ | ⟨-, cell, rfl⟩ | ⟨-, hnil⟩
  · rfl
  · rfl
  · rfl
  · exact absurd hnil hne

theorem isColumnFailure_of_evaluate {strict : Bool} {t : Table} (hne : t.headers ≠ [])
    (hcells : ¬ HasDottedCell t) {text : String} (hlimit : ¬ HasHugeLimit text) {f : Failure}
    (h : evaluate strict t text = .error f) : f.isColumnFailure = true := by
  rcases evaluate_eq_error h with
    ⟨names, rfl⟩ | ⟨hhuge, -⟩ | ⟨hdotted, -⟩ | ⟨-, hnil⟩
  · rfl
  · exact absurd hhuge hlimit
  · exact absurd hdotted hcells
  · exact absurd hnil hne

def HasAsciiCells (t : Table) : Prop :=
  ∀ row ∈ t.rows, ∀ cell ∈ row, ∀ s ∈ cell, IsAscii s.toList

theorem not_hasDottedCell {t : Table} (h : HasAsciiCells t) : ¬ HasDottedCell t := by
  rintro ⟨row, hrow, index, w, sign, word, rest, -, -, -, hdotted, hcell⟩
  have hascii : IsAscii (cellAt row index).toList := by
    rw [cellAt]
    cases hget : row[index]? with
    | none => exact fun c hc => absurd hc (by simp)
    | some cell =>
      cases cell with
      | none => exact fun c hc => absurd hc (by simp)
      | some s => exact h row hrow (some s) (List.mem_of_getElem? hget) s rfl
  have hword (c : Char) (hc : c ∈ word) : c.toNat < 128 :=
    hascii c (by rw [hcell]; simp [hc])
  rcases hdotted with hmem | hmem
  · exact absurd (hword _ hmem) (by decide)
  · exact absurd (hword _ hmem) (by decide)

end TableTalk.Query

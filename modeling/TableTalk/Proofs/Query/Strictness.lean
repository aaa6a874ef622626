import Mathlib.Control.Monad.Basic
import TableTalk.Proofs.Failure
import TableTalk.Query.Evaluate

/-!
# Strict evaluation

A strict evaluation fails for unknown columns exactly if a name in the query equals no header, and
the failure lists all such names. In every other respect it does what a lenient evaluation does.
-/

namespace TableTalk.Query

open Text

def IsHeader (headers : List String) (name : String) : Prop :=
  ∃ header ∈ headers, lower header = lower name

instance (headers : List String) (name : String) : Decidable (IsHeader headers name) :=
  inferInstanceAs (Decidable (∃ header ∈ headers, _))

def Filter.column? : Filter → Option String
  | .holds column _ _ => some column
  | .uninterpreted _ => none

/-- The columns that a query names: those of its projection, of its filter and of its sort. -/
def namedColumns (q : Query) : List String :=
  q.projection.getD [] ++ (q.filter.bind Filter.column?).toList ++
    (q.sort.map SortKey.column).toList

/-- The columns named that no header equals, as often and in the order in which they are named. -/
def missing (headers : List String) (q : Query) : List String :=
  (namedColumns q).filter fun name => ¬ IsHeader headers name

theorem missing_eq_nil_iff {headers : List String} {q : Query} :
    missing headers q = [] ↔ ∀ name ∈ namedColumns q, IsHeader headers name := by
  simp only [missing, List.filter_eq_nil_iff, decide_eq_true_eq, not_not]

theorem findIdx?_header_eq_none_iff {headers : List String} {name : String} :
    headers.findIdx? (fun header => lower header == lower name) = none ↔
      ¬ IsHeader headers name := by
  rw [List.findIdx?_eq_none_iff]
  constructor
  · rintro h ⟨header, hmem, heq⟩
    exact absurd heq (by simpa using h header hmem)
  · intro h header hmem
    exact beq_false_of_ne fun heq => h ⟨header, hmem, heq⟩

theorem resolve_of_isHeader {headers : List String} {name : String} (h : IsHeader headers name) :
    ∃ index, resolve headers name = .column name index := by
  cases hfind : headers.findIdx? fun header => lower header == lower name with
  | none => exact absurd h (findIdx?_header_eq_none_iff.1 hfind)
  | some index => exact ⟨index, by simp only [resolve, hfind]⟩

theorem resolve_of_not_isHeader {headers : List String} {name : String}
    (h : ¬ IsHeader headers name) : resolve headers name = .unknown name := by
  simp only [resolve, findIdx?_header_eq_none_iff.2 h]

theorem misses_append (l l' : List Resolution) : misses (l ++ l') = misses l ++ misses l' := by
  simp only [misses, List.filter_append, List.map_append]

theorem misses_resolve (headers : List String) (names : List String) :
    misses (names.map (resolve headers)) = names.filter fun name => ¬ IsHeader headers name := by
  induction names with
  | nil => rfl
  | cons name names ih =>
    rw [List.map_cons, ← List.singleton_append, misses_append, ih]
    by_cases h : IsHeader headers name
    · obtain ⟨index, hindex⟩ := resolve_of_isHeader h
      rw [hindex, List.filter_cons_of_neg (by simpa using h)]
      rfl
    · rw [resolve_of_not_isHeader h, List.filter_cons_of_pos (by simpa using h)]
      rfl

theorem misses_resolveProjection (headers : List String) (projection : Option (List String)) :
    misses (resolveProjection headers projection) =
      (projection.getD []).filter fun name => ¬ IsHeader headers name := by
  cases projection with
  | some names => exact misses_resolve headers names
  | none =>
    -- A wildcard names no column, and each header means itself.
    have hall : ∀ r ∈ resolveProjection headers none, ¬ r.isUnknown = true := by
      intro r hr
      obtain ⟨_, _, rfl⟩ := List.mem_map.1 hr
      exact Bool.false_ne_true
    rw [misses, List.filter_eq_nil_iff.2 hall]
    rfl

theorem resolveFilter_eq (headers : List String) (filter : Option Filter) :
    resolveFilter headers filter = (filter.bind Filter.column?).map (resolve headers) := by
  rcases filter with _ | filter
  · rfl
  · cases filter <;> rfl

theorem resolveSort_eq (headers : List String) (key : Option SortKey) :
    resolveSort headers key = (key.map SortKey.column).map (resolve headers) := by
  rw [resolveSort, Option.map_map]
  rfl

/-- The unknown names of a query are the names that no header equals. -/
theorem unknownNames_eq_missing (headers : List String) (q : Query) :
    unknownNames headers q = missing headers q := by
  have htoList : ∀ name? : Option String,
      (name?.map (resolve headers)).toList = name?.toList.map (resolve headers) := by
    intro name?
    cases name? <;> rfl
  rw [unknownNames, resolveFilter_eq, resolveSort_eq, misses_append, misses_append, htoList,
    htoList, misses_resolve, misses_resolve, misses_resolveProjection, missing, namedColumns,
    List.filter_append, List.filter_append]

theorem plan_strict_of_missing {headers : List String} {q : Query} (h : missing headers q ≠ []) :
    plan true headers q = .error (.unknownColumns (missing headers q)) := by
  have hnonempty : (missing headers q).isEmpty = false := List.isEmpty_eq_false_iff.2 h
  simp only [plan, unknownNames_eq_missing, hnonempty, Bool.not_false, Bool.and_true, if_true]

theorem plan_strict_of_none_missing {headers : List String} {q : Query}
    (h : missing headers q = []) : plan true headers q = plan false headers q := by
  simp only [plan, unknownNames_eq_missing, h, List.isEmpty_nil, Bool.not_true, Bool.and_false]

theorem evaluate_of_parse_some {strict : Bool} {t : Table} {text : String} {q : Query}
    (hparse : parse text = .ok (some q)) : evaluate strict t text = answer strict t q := by
  rw [evaluate, hparse]
  rfl

theorem evaluate_of_parse_none {strict : Bool} {t : Table} {text : String}
    (hparse : parse text = .ok none) : evaluate strict t text = .ok unsupported := by
  rw [evaluate, hparse]
  rfl

theorem answer_of_plan_error {strict : Bool} {t : Table} {q : Query} {f : Failure}
    (hplan : plan strict t.headers q = .error f) : answer strict t q = .error f := by
  rw [answer, hplan]
  rfl

theorem answer_of_orderRows {strict : Bool} {t : Table} {q : Query} {p : Plan}
    (hplan : plan strict t.headers q = .ok p) :
    answer strict t q = (orderRows q.sort p.sort (filterRows q.filter p.filter t.rows)).map
      fun rows => ⟨p.columns, (limitRows q.limit rows).map (project p.projection)⟩ := by
  rw [answer, hplan]
  change (orderRows q.sort p.sort (filterRows q.filter p.filter t.rows) >>= _) = _
  cases orderRows q.sort p.sort (filterRows q.filter p.filter t.rows) <;> rfl

theorem answer_strict_of_missing {t : Table} {q : Query} (h : missing t.headers q ≠ []) :
    answer true t q = .error (.unknownColumns (missing t.headers q)) :=
  answer_of_plan_error (plan_strict_of_missing h)

theorem answer_strict_of_none_missing {t : Table} {q : Query} (h : missing t.headers q = []) :
    answer true t q = answer false t q := by
  rw [answer, plan_strict_of_none_missing h, answer]

theorem answer_of_none_missing {strict : Bool} {t : Table} {q : Query}
    (h : missing t.headers q = []) : answer strict t q = answer false t q := by
  cases strict with
  | false => rfl
  | true => exact answer_strict_of_none_missing h

theorem leading_eq_error {cell : String} {f : Failure} (h : leading cell = .error f) :
    ∃ text, f = .unreadableNumber text := by
  simp only [leading] at h
  split at h
  · split at h
    · cases h
    · exact ⟨_, (Except.error.inj h).symm⟩
  · cases h

theorem sortRows_eq_error {index : Nat} {descending : Bool} {rows : List (List Cell)}
    {f : Failure} (h : sortRows index descending rows = .error f) :
    2 ≤ rows.length ∧ ∃ row ∈ rows, leading (cellAt row index) = .error f := by
  rw [sortRows] at h
  by_cases hlength : rows.length ≤ 1
  · rw [if_pos hlength] at h
    cases h
  · rw [if_neg hlength] at h
    rcases bind_eq_error h with hentries | ⟨_, _, h⟩
    · obtain ⟨row, hrow, hentry⟩ := mapM_eq_error hentries
      rcases bind_eq_error hentry with hcell | ⟨_, _, hentry⟩
      · exact ⟨Nat.lt_of_not_le hlength, row, hrow, hcell⟩
      · cases hentry
    · cases h

theorem orderRows_eq_error {key : Option SortKey} {column : Option Resolution}
    {rows : List (List Cell)} {f : Failure} (h : orderRows key column rows = .error f) :
    ∃ k name index, key = some k ∧ column = some (.column name index) ∧
      sortRows index k.descending rows = .error f := by
  unfold orderRows at h
  split at h
  · next k name index => exact ⟨k, name, index, rfl, rfl, h⟩
  · cases h

theorem answer_lenient_ne (t : Table) (q : Query) (names : List String) :
    answer false t q ≠ .error (.unknownColumns names) := by
  intro h
  rcases bind_eq_error h with hplan | ⟨p, _, h⟩
  · rw [plan, Bool.false_and, if_neg (by decide)] at hplan
    split at hplan <;> cases hplan
  · rcases bind_eq_error h with hrows | ⟨_, _, h⟩
    · obtain ⟨_, _, _, _, _, hsort⟩ := orderRows_eq_error hrows
      obtain ⟨_, row, _, hcell⟩ := sortRows_eq_error hsort
      obtain ⟨_, htext⟩ := leading_eq_error hcell
      cases htext
    · cases h

/-- A strict evaluation of a text that can be read fails for unknown columns exactly if the text is
a query and a column that it names is no header, and the failure lists the names that are none. If
it does not fail so, it has the outcome of the lenient evaluation. -/
theorem evaluate_strict {t : Table} {text : String} {parsed : Option Query}
    (hparse : parse text = .ok parsed) :
    (∀ names, evaluate true t text = .error (.unknownColumns names) ↔
      ∃ q, parsed = some q ∧ (∃ name ∈ namedColumns q, ¬ IsHeader t.headers name) ∧
        names = missing t.headers q) ∧
    ((∀ names, evaluate true t text ≠ .error (.unknownColumns names)) →
      evaluate true t text = evaluate false t text) := by
  cases parsed with
  | none =>
    rw [evaluate_of_parse_none hparse, evaluate_of_parse_none hparse]
    refine ⟨fun names => ⟨fun h => absurd h (by simp), ?_⟩, fun _ => rfl⟩
    rintro ⟨_, hq, _⟩
    cases hq
  | some q =>
    rw [evaluate_of_parse_some hparse, evaluate_of_parse_some hparse]
    by_cases hmissing : missing t.headers q = []
    · have hheaders := missing_eq_nil_iff.1 hmissing
      rw [answer_strict_of_none_missing hmissing]
      refine ⟨fun names => ⟨fun h => absurd h (answer_lenient_ne t q names), ?_⟩, fun _ => rfl⟩
      rintro ⟨_, ⟨⟩, ⟨name, hname, hno⟩, _⟩
      exact absurd (hheaders name hname) hno
    · have hname : ∃ name ∈ namedColumns q, ¬ IsHeader t.headers name := by
        simpa only [missing_eq_nil_iff, not_forall, exists_prop] using hmissing
      rw [answer_strict_of_missing hmissing]
      refine ⟨fun names => ⟨fun h => ⟨q, rfl, hname, ?_⟩, ?_⟩, fun h => absurd rfl (h _)⟩
      · exact (Failure.unknownColumns.inj (Except.error.inj h)).symm
      · rintro ⟨_, ⟨⟩, _, rfl⟩
        rfl

def ledger : Table where
  headers := ["Item", "ITEM", "Price"]
  rows := [[some "ink", some "Ink", some "3"]]

def ledgerText : String :=
  "SELECT Colour, item, COLOUR FROM ledger WHERE shade = 'x' ORDER BY price"

/-- A name that is missing twice is listed twice, the column of the filter after the projection. -/
theorem evaluate_strict_repeated :
    evaluate true ledger ledgerText = .error (.unknownColumns ["colour", "colour", "shade"]) := by
  let q : Query := ⟨some ["colour", "item", "colour"], some (.holds "shade" .equals "x"),
    some ⟨"price", false⟩, none⟩
  have hparse : parse ledgerText = .ok (some q) := by decide +kernel
  have hnamed : ∃ name ∈ namedColumns q, ¬ IsHeader ledger.headers name :=
    ⟨"colour", by decide, by decide +kernel⟩
  have hmissing : ["colour", "colour", "shade"] = missing ledger.headers q := by decide +kernel
  exact ((evaluate_strict hparse).1 _).2 ⟨q, rfl, hnamed, hmissing⟩

end TableTalk.Query

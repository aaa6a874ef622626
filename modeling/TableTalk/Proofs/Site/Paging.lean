import Mathlib
import TableTalk.Proofs.Assistant.Build
import TableTalk.Proofs.Table.Records
import TableTalk.Proofs.Text.Numeral
import TableTalk.Proofs.Text.Search
import TableTalk.Proofs.World.Action
import TableTalk.Site.Service

/-!
# Paging through a table

A client that asks for the rows of a table page by page, and goes on as long as it is told that
there is more, sees every row once and in order. A page says that there is more exactly if rows of
the table stand behind it.
-/

namespace TableTalk

open TableTalk.Action Text

namespace Site

section Numbers

variable {n : Nat} {c : Char}

theorem notMem_repr (h : c.isDigit = false) : c ∉ (Nat.repr n).toList := by
  intro hmem
  rw [isDigit_of_mem_repr hmem] at h
  cases h

theorem exists_repr_eq_cons (n : Nat) :
    ∃ c cs, (Nat.repr n).toList = c :: cs ∧ c.isDigit = true := by
  obtain ⟨c, cs, hcs⟩ := List.exists_cons_of_ne_nil (repr_ne_nil n)
  exact ⟨c, cs, hcs, isDigit_of_mem_repr (hcs ▸ List.mem_cons_self)⟩

theorem trimSpace_repr (n : Nat) : trimSpace (Nat.repr n).toList = (Nat.repr n).toList := by
  have hspace : ∀ c ∈ (Nat.repr n).toList, isSpace c = false := by
    intro c hc
    have hword : isWordAscii c = true := by
      simp [isWordAscii, Char.isAlphanum, isDigit_of_mem_repr hc]
    rw [isSpace, isBlank_of_isWordAscii hword, Bool.false_and]
  have hkeep : ∀ cs : List Char, (∀ c ∈ cs, isSpace c = false) → cs.dropWhile isSpace = cs := by
    intro cs hcs
    cases cs with
    | nil => rfl
    | cons c cs =>
      rw [List.dropWhile_cons_of_neg (by rw [hcs c List.mem_cons_self]; decide)]
  rw [trimSpace, hkeep _ hspace, hkeep _ fun c hc => hspace c (List.mem_reverse.1 hc),
    List.reverse_reverse]

/-- There is no zero in front of a number but the number zero. -/
theorem dropZeros?_repr (n : Nat) : dropZeros? (Nat.repr n).toList = some (Nat.repr n).toList := by
  by_cases hn : n = 0
  · subst hn
    decide
  · have hhead := head?_repr_ne hn
    obtain ⟨c, cs, hcs, hc⟩ := exists_repr_eq_cons n
    rw [hcs] at hhead ⊢
    have hzero : c ≠ '0' := fun h => hhead (congrArg some h)
    rw [dropZeros?]
    · exact if_pos (Or.inl hc)
    · exact hzero

theorem dropBars?_repr (n : Nat) : dropBars? (Nat.repr n).toList = some (Nat.repr n).toList := by
  have hbar : '_' ∉ (Nat.repr n).toList := notMem_repr (by decide)
  have hinfix : ¬ ['_', '_'] <:+: (Nat.repr n).toList :=
    fun h => hbar (h.subset List.mem_cons_self)
  rw [dropBars?, if_neg, List.filter_eq_self.2]
  · intro c hc
    simpa using fun h : c = '_' => hbar (h ▸ hc)
  · rintro (h | h | h)
    · exact hbar (List.mem_of_mem_head? h)
    · exact hbar (List.mem_of_getLast? h)
    · exact hinfix (occurs_eq_true_iff.1 h)

/-- A number is read as it is usually written. -/
theorem readNumber?_repr (n : Nat) : readNumber? (Nat.repr n).toList = some (n : Int) := by
  have hhead : ∀ c, c.isDigit = false → (Nat.repr n).toList.head? ≠ some c :=
    fun c hc h => notMem_repr hc (List.mem_of_mem_head? h)
  have hpoint : dropZeroFraction (Nat.repr n).toList = (Nat.repr n).toList := by
    rw [dropZeroFraction, cutAt?_eq_none (notMem_repr (by decide))]
  have hdigits : ¬ ((Nat.repr n).toList.isEmpty = true ∨
      (!(Nat.repr n).toList.all Char.isDigit) = true) := by
    rw [List.isEmpty_iff, List.all_eq_true.2 fun c hc => isDigit_of_mem_repr hc]
    simp
  rw [readNumber?, if_neg (hhead '+' (by decide)), dropZeros?_repr]
  simp only [Option.bind_eq_bind, Option.bind_some, hpoint, dropBars?_repr,
    if_neg (hhead '-' (by decide)), if_neg hdigits, numeral_repr]
  rfl

/-- A field of the query gives the number: it is written there, or the field is not there and this
is the number that is meant then. -/
def Request.Gives (r : Request) (name : String) (n default : Nat) : Prop :=
  r.field? name = some (toString n) ∧ (toString n).length ≤ numberLength ∨
    r.field? name = none ∧ n = default

theorem checkNumber_eq {r : Request} {name : String} {default : Nat} {most : Option Int}
    (h : r.Gives name n default) (least : Nat) (hleast : least ≤ n)
    (hmost : most.any (· < (n : Int)) = false) :
    checkNumber r name default least most = ((n : Int), []) := by
  unfold Request.Gives at h
  rcases h with ⟨hfield, hlength⟩ | ⟨hfield, rfl⟩
  · have hlength' : ¬ numberLength < (Nat.repr n).toList.length := by
      rw [String.length_toList]
      exact Nat.not_lt.2 hlength
    have hleast' : ¬ (n : Int) < least := by omega
    have htext : trimSpace (toString n).toList = (Nat.repr n).toList := trimSpace_repr n
    rw [checkNumber, hfield]
    dsimp only
    rw [htext, if_neg hlength', readNumber?_repr]
    dsimp only
    rw [if_neg hleast', if_neg (Bool.eq_false_iff.1 hmost)]
  · rw [checkNumber, hfield]

end Numbers

def hasMore (page : Json) : Bool :=
  match page.getD "has_more" with
  | .bool more => more
  | _ => false

def rowsIn (page : Json) : List Json :=
  match page.getD "rows" with
  | .list rows => rows
  | _ => []

def page (t : Table) (limit offset : Nat) : Json :=
  rowsOf t offset limit

/-- The pages that a client comes to from an offset on who adds the limit to the offset as long as
there is more. -/
inductive Walk (t : Table) (limit : Nat) : Nat → List Json → Prop
  | last {offset : Nat} : hasMore (page t limit offset) = false →
      Walk t limit offset [page t limit offset]
  | more {offset : Nat} {pages : List Json} : hasMore (page t limit offset) = true →
      Walk t limit (offset + limit) pages → Walk t limit offset (page t limit offset :: pages)

variable {t : Table} {limit offset : Nat}

def recordsOf (t : Table) (rows : List (List Cell)) : List Json :=
  rows.map fun row => Source.recordJson (Table.record t.headers row)

theorem recordsOf_append (t : Table) (rows rows' : List (List Cell)) :
    recordsOf t (rows ++ rows') = recordsOf t rows ++ recordsOf t rows' :=
  List.map_append

/-- An offset past the end needs no case of its own. -/
theorem shown_eq (t : Table) (limit offset : Nat) :
    (if (t.rowCount : Int) ≤ offset then [] else t.records offset (some limit)) =
      ((t.rows.drop offset).take limit).map (Table.record t.headers) := by
  rw [Table.records_page]
  by_cases h : (t.rowCount : Int) ≤ offset
  · have hnone : t.rows.drop offset = [] := List.drop_eq_nil_of_le (Int.ofNat_le.1 h)
    rw [if_pos h, hnone, List.take_nil, List.map_nil]
  · rw [if_neg h]

theorem rowsIn_page (t : Table) (limit offset : Nat) :
    rowsIn (page t limit offset) = recordsOf t ((t.rows.drop offset).take limit) := by
  change (if (t.rowCount : Int) ≤ offset then [] else t.records offset (some limit)).map
    Source.recordJson = _
  rw [shown_eq, List.map_map]
  rfl

/-- There is more exactly if the table has rows behind the page. -/
theorem hasMore_page_iff : hasMore (page t limit offset) = true ↔ offset + limit < t.rowCount := by
  change decide ((offset : Int) + (if (t.rowCount : Int) ≤ offset then []
    else t.records offset (some limit)).length < (t.rowCount : Int)) = true ↔ _
  rw [shown_eq, List.length_map, List.length_take, List.length_drop, decide_eq_true_iff,
    Table.rowCount]
  omega

def pageCount (rows limit : Nat) : Nat :=
  max 1 (rows ⌈/⌉ limit)

theorem pageCount_of_le {rows : Nat} (hlimit : 0 < limit) (h : rows ≤ limit) :
    pageCount rows limit = 1 := by
  have hceil : rows ⌈/⌉ limit ≤ 1 := by
    rw [ceilDiv_le_iff_le_smul hlimit, smul_eq_mul, Nat.mul_one]
    exact h
  exact Nat.max_eq_left hceil

theorem pageCount_of_lt {rows : Nat} (hlimit : 0 < limit) (h : limit < rows) :
    pageCount rows limit = pageCount (rows - limit) limit + 1 := by
  have hrest : 1 ≤ (rows - limit) ⌈/⌉ limit := by
    rw [Nat.one_le_iff_ne_zero, Ne, ← Nat.le_zero, ceilDiv_le_iff_le_smul hlimit, smul_zero]
    omega
  have hceil : rows ⌈/⌉ limit = (rows - limit) ⌈/⌉ limit + 1 := by
    rw [Nat.ceilDiv_eq_add_pred_div, Nat.ceilDiv_eq_add_pred_div, ← Nat.add_div_right _ hlimit]
    congr 1
    omega
  rw [pageCount, pageCount, Nat.max_eq_right hrest, hceil, Nat.max_eq_right (Nat.le_add_left 1 _)]

/-- From any offset on, the walk comes to an end with all rows behind the offset, on as many pages
as they fill. -/
theorem exists_walk (t : Table) (hlimit : 0 < limit) (offset : Nat) :
    ∃ pages, Walk t limit offset pages ∧ pages.flatMap rowsIn = recordsOf t (t.rows.drop offset) ∧
      pages.length = pageCount (t.rowCount - offset) limit := by
  -- Each page moves the offset on, so fewer rows are left behind it.
  induction hleft : t.rowCount - offset using Nat.strong_induction_on generalizing offset with
  | _ left ih =>
    by_cases hmore : hasMore (page t limit offset) = true
    · have hbehind := hasMore_page_iff.1 hmore
      obtain ⟨pages, hwalk, hrows, hlength⟩ :=
        ih (t.rowCount - (offset + limit)) (by omega) (offset + limit) rfl
      refine ⟨page t limit offset :: pages, .more hmore hwalk, ?_, ?_⟩
      · rw [List.flatMap_cons, hrows, rowsIn_page, ← recordsOf_append, ← List.drop_drop,
          List.take_append_drop]
      · have hcount := pageCount_of_lt hlimit (show limit < left by omega)
        rw [List.length_cons, hlength, hcount, ← hleft, Nat.sub_sub]
    · have hbehind : left ≤ limit := by
        rw [hasMore_page_iff] at hmore
        omega
      refine ⟨[page t limit offset], .last (Bool.eq_false_iff.2 hmore), ?_, ?_⟩
      · rw [List.flatMap_singleton, rowsIn_page, List.take_of_length_le]
        rw [List.length_drop]
        exact hleft ▸ hbehind
      · rw [List.length_singleton, pageCount_of_le hlimit hbehind]

/-- The rows that the site shows are those of the table: it has an assistant with the table or, if
it has none, puts one together. -/
def Shows (site : Site) (t : Table) (w : World) : Prop :=
  ∃ a : Assistant, a.table = t ∧
    (site.assistant = some a ∨ site.assistant = none ∧ (site.prepare w).1 = .ok a)

structure Request.AsksForRows (r : Request) (offset limit : Nat) : Prop where
  method : r.method = "GET"
  path : Endpoint.ofPath? r.path = some .rows
  offset : r.Gives "offset" offset 0
  limit : r.Gives "limit" limit 25

variable {site : Site} {w : World} {r : Request}

theorem wish_of_asksForRows (h : r.AsksForRows offset limit) (hleast : 1 ≤ limit)
    (hmost : limit ≤ 100) : r.wish = .ok (.rows offset limit) := by
  have hoffset : checkNumber r "offset" 0 0 none = ((offset : Int), []) :=
    checkNumber_eq h.offset 0 (Nat.zero_le _) rfl
  have hlimit : checkNumber r "limit" 25 1 (some 100) = ((limit : Int), []) := by
    refine checkNumber_eq h.limit 1 hleast ?_
    rw [Option.any_some, decide_eq_false_iff_not]
    omega
  have hpage : pageOf r = .ok ((offset : Int), (limit : Int)) := by
    rw [pageOf, hoffset, hlimit]
    rfl
  rw [Request.wish, h.path]
  dsimp only
  rw [if_pos (show Endpoint.rows.method = r.method from h.method.symm), wishOf, hpage]
  rfl

theorem meet_rows_run (a : Assistant) (w : World) :
    orServerError (meet a "" (.rows offset limit)) w =
      (.ok (.ok (page a.table limit offset)), w) :=
  rfl

/-- A request for rows is answered with the page, and the site goes on to show the same table. -/
theorem respond_rows (hshows : site.Shows t w) (h : r.AsksForRows offset limit)
    (hleast : 1 ≤ limit) (hmost : limit ≤ 100) :
    ∃ site' w', site.respond r w = (.ok (.ok (page t limit offset), site'), w') ∧
      ∀ later, site'.Shows t later := by
  have hwish := wish_of_asksForRows h hleast hmost
  have hticket (w : World) : ticketFor (.rows offset limit) w = (.ok "", w) := rfl
  obtain ⟨a, rfl, hthere | ⟨hnone, hprepare⟩⟩ := hshows
  · refine ⟨site, w, ?_, fun _ => ⟨a, rfl, .inl hthere⟩⟩
    rw [respond, hwish]
    dsimp only
    rw [serve, bind_of_ok (hticket w), hthere]
    dsimp only
    rw [bind_of_ok (meet_rows_run a w)]
    rfl
  · obtain ⟨w₁, hready⟩ : ∃ w₁, site.prepare w = (.ok a, w₁) := ⟨_, Prod.ext hprepare rfl⟩
    have hattempt : attempt site.prepare w = (.ok (.ok a), w₁) := by rw [attempt, hready]
    refine ⟨{ site with assistant := some a }, w₁, ?_, fun _ => ⟨a, rfl, .inl rfl⟩⟩
    rw [respond, hwish]
    dsimp only
    rw [serve, bind_of_ok (hticket w), hnone]
    dsimp only
    rw [bind_of_ok hattempt]
    dsimp only
    rw [bind_of_ok (meet_rows_run a _)]
    rfl

/-- Without an assistant, a site for a given table puts one together that has the table. -/
theorem shows_given {a : Assistant} (hgiven : site.given = some t) (hnone : site.assistant = none)
    (hprepare : (site.prepare w).1 = .ok a) : site.Shows t w := by
  refine ⟨a, ?_, .inr ⟨hnone, hprepare⟩⟩
  obtain ⟨built, _, hbuild, ha⟩ := exists_of_bind_eq_ok hprepare
  rw [hgiven, Assistant.build_some] at hbuild
  rw [← Except.ok.inj ha]
  exact (Assistant.of_forTable (congrArg Prod.fst hbuild)).2.1

/-- Paging through the rows of a table loses and repeats nothing. A client that starts at offset
zero comes to an end after as many pages as the rows fill, or one, with the records of all rows in
order; and a record has each header once, with the cell below its first place. A page has the first
of the rows from its offset on, and says that there is more exactly if there are others. A site that
shows the table answers each request for rows with the page, and shows the same table from then
on. -/
theorem exists_walk_records (hwide : ∀ row ∈ t.rows, row.length = t.headers.length)
    (hleast : 1 ≤ limit) (hmost : limit ≤ 100) :
    (∃ pages, Walk t limit 0 pages ∧ pages.length = max 1 (t.rowCount ⌈/⌉ limit) ∧
      pages.flatMap rowsIn = (t.records 0 none).map Source.recordJson) ∧
    List.Forall₂ (Table.IsRecordOf t.headers) t.rows (t.records 0 none) ∧
    (∀ offset : Nat,
      rowsIn (page t limit offset) = recordsOf t ((t.rows.drop offset).take limit) ∧
      (hasMore (page t limit offset) = true ↔ (t.rows.drop offset).drop limit ≠ [])) ∧
    ∀ (offset : Nat) (site : Site) (w : World) (r : Request), site.Shows t w →
      r.AsksForRows offset limit → ∃ site' w',
        site.respond r w = (.ok (.ok (page t limit offset), site'), w') ∧
          ∀ later, site'.Shows t later := by
  refine ⟨?_, ?_, fun offset => ⟨rowsIn_page t limit offset, ?_⟩,
    fun offset site w r hshows hasks => respond_rows hshows hasks hleast hmost⟩
  · obtain ⟨pages, hwalk, hrows, hlength⟩ := exists_walk t hleast 0
    refine ⟨pages, hwalk, hlength, ?_⟩
    rw [hrows, Table.records_all, List.map_map]
    rfl
  · rw [Table.records_all, List.forall₂_map_right_iff, List.forall₂_same]
    exact fun row hrow => Table.isRecordOf_record (hwide row hrow)
  · rw [hasMore_page_iff, List.drop_drop, Ne, List.drop_eq_nil_iff, Nat.not_le]
    rfl

/-- Three rows, below headers of which one comes twice. -/
def threeRows : Table :=
  ⟨["a", "b", "a"], [[some "1", some "2", some "3"], [some "4", some "5", some "6"],
    [some "7", some "8", some "9"]]⟩

def threeRowsSite : Site where
  settings := ⟨⟨none, none, none, "t", Double.zero⟩, none, true, none, Double.zero, none⟩
  given := some threeRows
  substitute := none
  assistant := none

/-- Two rows to a page make two pages, of which the second has the third row. -/
theorem exists_walk_records_three :
    (∃ pages, Walk threeRows 2 0 pages ∧ pages.length = 2 ∧ pages.flatMap rowsIn =
        [.record [("a", .text "1"), ("b", .text "2")], .record [("a", .text "4"), ("b", .text "5")],
          .record [("a", .text "7"), ("b", .text "8")]]) ∧
      ∃ site' w', threeRowsSite.respond ⟨"GET", "/api/dataset/rows",
          [("offset", "2"), ("limit", "2")], "", none⟩ World.bare =
        (.ok (.ok (page threeRows 2 2), site'), w') := by
  have hwide : ∀ row ∈ threeRows.rows, row.length = threeRows.headers.length := by decide
  obtain ⟨⟨pages, hwalk, hlength, hrows⟩, -, -, hanswers⟩ :=
    exists_walk_records hwide (show 1 ≤ 2 by decide) (show 2 ≤ 100 by decide)
  obtain ⟨a, hprepare⟩ : ∃ a, (threeRowsSite.prepare World.bare).1 = .ok a := ⟨_, rfl⟩
  obtain ⟨site', w', hrespond, -⟩ := hanswers 2 threeRowsSite World.bare
    ⟨"GET", "/api/dataset/rows", [("offset", "2"), ("limit", "2")], "", none⟩
    (shows_given rfl rfl hprepare)
    ⟨rfl, by decide +kernel, .inl ⟨by decide, by decide⟩, .inl ⟨by decide, by decide⟩⟩
  refine ⟨⟨pages, hwalk, ?_, hrows⟩, site', w', hrespond⟩
  rw [hlength]
  decide

end Site

end TableTalk

import TableTalk.Proofs.Query.Columns
import TableTalk.Proofs.Query.Conditions
import TableTalk.Proofs.Query.Orderings

/-!
# Reading canonical queries

Reading a spelling of a canonical query gives what the query asks for. The text in lower case is
taken apart into its four clauses; each search passes over the clauses before its own and stops
there, or passes over all of them if its own is absent.
-/

namespace TableTalk.Query

open Text

/-- An absent clause is written as nothing. -/
theorem spells_elim {α : Type} {clause : Option α} {pieces : α → List Piece} {cs : List Char}
    (h : Spells ((clause.elim [] pieces).map Piece.lower) cs) :
    (clause = none ∧ cs = []) ∨ ∃ a, clause = some a ∧ Spells ((pieces a).map Piece.lower) cs := by
  cases clause with
  | none => exact Or.inl ⟨rfl, spells_nil_iff.1 h⟩
  | some a => exact Or.inr ⟨a, rfl, h⟩

structure Clauses (q : CanonicalQuery) (h c s l : List Char) : Prop where
  head : Spells (q.headPieces.map Piece.lower) h
  comparison : Spells ((q.comparison.elim [] Comparison.pieces).map Piece.lower) c
  sorting : Spells ((q.sorting.elim [] Sorting.pieces).map Piece.lower) s
  limit : Spells ((q.limit.elim [] Decimal.pieces).map Piece.lower) l

theorem exists_clauses {q : CanonicalQuery} {cs : List Char}
    (hcs : Spells (q.pieces.map Piece.lower) cs) :
    ∃ h c s l, Clauses q h c s l ∧ cs = h ++ (c ++ (s ++ l)) := by
  simp only [CanonicalQuery.pieces, List.map_append, spells_append_iff] at hcs
  obtain ⟨h, _, hh, ⟨c, _, hc, ⟨s, l, hs, hl, rfl⟩, rfl⟩, rfl⟩ := hcs
  exact ⟨h, c, s, l, ⟨hh, hc, hs, hl⟩, rfl⟩

def Ended (cs : List Char) : Prop :=
  ∃ front d, cs = front ++ [d] ∧ isBlank d = false

theorem Ended.append {b : List Char} (hb : Ended b) (a : List Char) : Ended (a ++ b) := by
  obtain ⟨front, d, rfl, hd⟩ := hb
  exact ⟨a ++ front, d, (List.append_assoc a front [d]).symm, hd⟩

theorem ended_append_or {a b : List Char} (ha : a = [] ∨ Ended a) (hb : b = [] ∨ Ended b) :
    a ++ b = [] ∨ Ended (a ++ b) := by
  rcases hb with rfl | hb
  · rwa [List.append_nil]
  · exact Or.inr (hb.append a)

theorem ended_of_blank_eq_false {x : List Char} (hne : x ≠ [])
    (hx : ∀ c ∈ x, isBlank c = false) : Ended x :=
  ⟨x.dropLast, x.getLast hne, (List.dropLast_append_getLast hne).symm,
    hx _ (List.getLast_mem hne)⟩

theorem Ended.getLast? {cs : List Char} (h : Ended cs) :
    ∀ c ∈ cs.getLast?, isBlank c = false := by
  obtain ⟨front, d, rfl, hd⟩ := h
  rw [List.getLast?_concat]
  simpa using hd

theorem ended_name (x : Name) : Ended x.lowerChars :=
  ended_of_blank_eq_false x.isName.ne_nil x.isName.isBlank_eq_false

theorem ended_head {q : CanonicalQuery} {h : List Char}
    (hh : Spells (q.headPieces.map Piece.lower) h) : Ended h := by
  obtain ⟨w₁, p, w₂, w₃, _, _, _, _, rfl⟩ := spells_head hh
  exact ((((((ended_name q.table).append w₃).append fromWord).append w₂).append p).append w₁).append
    selectWord

theorem ended_comparison {c : Comparison} {cs : List Char}
    (hc : Spells (c.pieces.map Piece.lower) cs) : Ended cs := by
  obtain ⟨w₁, w₂, clause, _, _, hclause, rfl⟩ := spells_comparison hc
  have hquote : Ended [c.quote] := ⟨[], c.quote, rfl, c.isBlank_quote⟩
  have hend : Ended clause := by
    cases hop : c.operator with
    | equals =>
      obtain ⟨w, w', _, _, rfl⟩ := spells_equals hop hclause
      have hvalue := ((hquote.append (c.value.map Char.toLower)).append [c.quote]).append w'
      exact ((hvalue.append ['=']).append w).append c.column.lowerChars
    | like =>
      obtain ⟨w, w', _, _, rfl⟩ := spells_like hop hclause
      have hvalue := (((hquote.append ['%']).append (c.value.map Char.toLower)).append
        [c.quote, '%']).append w'
      exact ((hvalue.append likeWord).append w).append c.column.lowerChars
  exact ((hend.append w₂).append whereWord).append w₁

theorem ended_sortColumn {s : Sorting} {column : List Char}
    (hc : Spells (s.columnPieces.map Piece.lower) column) : Ended column := by
  cases hcast : s.castTo with
  | none =>
    rw [(spells_plainColumn hcast).1 hc]
    exact ended_name s.column
  | some type =>
    obtain ⟨w₁, w₂, w₃, w₄, w₅, _, _, _, _, _, rfl⟩ := spells_castColumn hcast hc
    have hclose : Ended [')'] := ⟨[], ')', rfl, by decide⟩
    have htype := (((hclose.append w₅).append type.lowerChars).append w₄).append asWord
    have hinner := ((htype.append w₃).append s.column.lowerChars).append w₂
    exact ((hinner.append ['(']).append w₁).append castWord

theorem ended_sorting {s : Sorting} {cs : List Char} (hs : Spells (s.pieces.map Piece.lower) cs) :
    Ended cs := by
  obtain ⟨w₁, w₂, w₃, column, direction, _, _, _, hcolumn, hdirection, rfl⟩ := spells_sorting hs
  have hend : Ended (column ++ direction) := by
    rcases spells_direction hdirection with ⟨_, rfl⟩ | ⟨w, _, ⟨_, rfl⟩ | ⟨_, rfl⟩⟩
    · rw [List.append_nil]
      exact ended_sortColumn hcolumn
    · have hasc : Ended ascWord := ended_of_blank_eq_false (by decide) (isBlank_of_all (by decide))
      exact (hasc.append w).append column
    · have hdesc : Ended descWord :=
        ended_of_blank_eq_false (by decide) (isBlank_of_all (by decide))
      exact (hdesc.append w).append column
  exact ((((hend.append w₃).append byWord).append w₂).append orderWord).append w₁

theorem Decimal.ended (n : Decimal) : Ended n.digits :=
  ended_of_blank_eq_false n.ne_nil fun c hc => isBlank_of_isWordAscii (n.isWordAscii_of_mem c hc)

theorem ended_decimal {n : Decimal} {cs : List Char} (hn : Spells (n.pieces.map Piece.lower) cs) :
    Ended cs := by
  obtain ⟨w₁, w₂, _, _, rfl⟩ := spells_decimal hn
  exact ((n.ended.append w₂).append limitWord).append w₁

namespace Clauses

variable {q : CanonicalQuery} {h c s l : List Char}

theorem closing (hq : Clauses q h c s l) : Closing l := by
  rcases spells_elim hq.limit with ⟨_, rfl⟩ | ⟨n, _, hn⟩
  · exact Or.inl rfl
  · obtain ⟨w, w', hw, _, rfl⟩ := spells_decimal hn
    exact Or.inr ⟨w, w' ++ n.digits, hw, rfl⟩

theorem harmless_sorting (hq : Clauses q h c s l) : Harmless (s ++ l) := by
  rcases spells_elim hq.sorting with ⟨_, rfl⟩ | ⟨k, _, hk⟩
  · exact hq.closing.harmless
  · obtain ⟨w, _, _, _, _, hw, _, _, _, _, rfl⟩ := spells_sorting hk
    rw [List.append_assoc]
    exact harmless_gap hw (by decide) (by decide) _

theorem harmless_comparison (hq : Clauses q h c s l) : Harmless (c ++ (s ++ l)) := by
  rcases spells_elim hq.comparison with ⟨_, rfl⟩ | ⟨k, _, hk⟩
  · exact hq.harmless_sorting
  · obtain ⟨w, _, _, hw, _, _, rfl⟩ := spells_comparison hk
    rw [List.append_assoc]
    exact harmless_gap hw (by decide) (by decide) _

theorem conditionEnds_rest (hq : Clauses q h c s l) : conditionEnds (s ++ l) = true := by
  rcases spells_elim hq.sorting with ⟨_, rfl⟩ | ⟨k, _, hk⟩
  · rcases hq.closing with rfl | ⟨w, t, hw, rfl⟩
    · rfl
    · exact conditionEnds_limit hw t
  · obtain ⟨w, w', w'', column, direction, hw, hw', _, _, _, rfl⟩ := spells_sorting hk
    simp only [List.append_assoc]
    exact conditionEnds_order hw hw' _

section Passing

variable {α : Type} {word : List Char} {starts : Char → Bool} {look : List Char → Option α}

theorem findFirst_head (hq : Clauses q h c s l) (hs : ClauseSearch word starts look) :
    findFirst look (h ++ (c ++ (s ++ l))) = findFirst look (c ++ (s ++ l)) :=
  pass_head hs hq.head hq.harmless_comparison

theorem findFirst_comparison (hq : Clauses q h c s l) (hs : ClauseSearch word starts look)
    (hword : word ≠ whereWord) : findFirst look (c ++ (s ++ l)) = findFirst look (s ++ l) := by
  rcases spells_elim hq.comparison with ⟨_, rfl⟩ | ⟨k, _, hk⟩
  · rfl
  · exact pass_comparison hs hword hk (s ++ l)

theorem findFirst_sorting (hq : Clauses q h c s l) (hs : ClauseSearch word starts look)
    (hword : word ≠ orderWord) : findFirst look (s ++ l) = findFirst look l := by
  rcases spells_elim hq.sorting with ⟨_, rfl⟩ | ⟨k, _, hk⟩
  · rfl
  · exact pass_sorting hs hword hk hq.closing.harmless

theorem findFirst_limit (hq : Clauses q h c s l) (hs : ClauseSearch word starts look)
    (hword : word ≠ limitWord) : findFirst look l = none := by
  rcases spells_elim hq.limit with ⟨_, rfl⟩ | ⟨n, _, hn⟩
  · exact hs.findFirst_nil
  · rw [pass_decimal hs hword hn, hs.findFirst_nil]

end Passing

theorem selected_bind (hq : Clauses q h c s l) :
    (selected (h ++ (c ++ (s ++ l)))).bind projectionOf = q.meaning.projection := by
  obtain ⟨p, hp, hselected⟩ := selected_head hq.head
  rw [hselected, Option.bind_some, projectionOf_columns hp]
  rfl

theorem condition_map (hq : Clauses q h c s l) :
    (condition (h ++ (c ++ (s ++ l)))).map filterOf = q.meaning.filter := by
  have hs := clauseSearch_condition
  rw [condition, hq.findFirst_head hs, CanonicalQuery.meaning]
  rcases spells_elim hq.comparison with ⟨hnone, rfl⟩ | ⟨k, hsome, hk⟩
  · rw [List.nil_append, hq.findFirst_sorting hs (by decide), hq.findFirst_limit hs (by decide),
      hnone]
    rfl
  · obtain ⟨w, w', clause, hw, hw', hclause, rfl⟩ := spells_comparison hk
    have hfound := findFirst_of_some (conditionHere_clause hclause hw' hq.conditionEnds_rest)
    simp only [List.append_assoc]
    rw [hs.pass_room hw.2, hfound, hsome, Option.map_some, Option.map_some,
      filterOf_clause hclause]

theorem ordering_map (hq : Clauses q h c s l) :
    ((ordering (h ++ (c ++ (s ++ l)))).map fun (column, descending) =>
      (⟨String.ofList column, descending⟩ : SortKey)) = q.meaning.sort := by
  have hs := clauseSearch_ordering
  rw [ordering, hq.findFirst_head hs, hq.findFirst_comparison hs (by decide),
    CanonicalQuery.meaning]
  rcases spells_elim hq.sorting with ⟨hnone, rfl⟩ | ⟨k, hsome, hk⟩
  · rw [List.nil_append, hq.findFirst_limit hs (by decide), hnone]
    rfl
  · obtain ⟨w, w', w'', column, direction, hw, hw', hw'', hcolumn, hdirection, rfl⟩ :=
      spells_sorting hk
    have hfound :=
      findFirst_of_some (orderingHere_sorting hw' hw'' hcolumn hdirection hq.closing)
    simp only [List.append_assoc]
    rw [hs.pass_room hw.2, hfound, hsome, Option.map_some, Option.map_some, Name.lowered_eq]

theorem limitDigits_mapM (hq : Clauses q h c s l) :
    (limitDigits (h ++ (c ++ (s ++ l)))).mapM limitOf = .ok q.meaning.limit := by
  have hs := clauseSearch_limit
  rw [limitDigits, hq.findFirst_head hs, hq.findFirst_comparison hs (by decide),
    hq.findFirst_sorting hs (by decide), CanonicalQuery.meaning]
  rcases spells_elim hq.limit with ⟨hnone, rfl⟩ | ⟨n, hsome, hn⟩
  · rw [hs.findFirst_nil, hnone]
    rfl
  · obtain ⟨w, w', hw, hw', rfl⟩ := spells_decimal hn
    have hfound := limitHere_digits n (isGap_of_admits hw')
    rw [hs.pass_room hw.2, findFirst_of_some hfound, hsome, Option.mapM_some, limitOf_digits]
    rfl

theorem parseNormal_eq (hq : Clauses q h c s l) :
    parseNormal (h ++ (c ++ (s ++ l))) = .ok q.meaning := by
  rw [parseNormal, hq.limitDigits_mapM, hq.selected_bind, hq.condition_map, hq.ordering_map]
  rfl

theorem select_isPrefix (hq : Clauses q h c s l) (rest : List Char) :
    selectWord <+: h ++ rest := by
  obtain ⟨w₁, p, w₂, w₃, _, _, _, _, rfl⟩ := spells_head hq.head
  rw [List.append_assoc]
  exact List.prefix_append selectWord _

theorem ended (hq : Clauses q h c s l) : Ended (h ++ (c ++ (s ++ l))) := by
  have hlimit : l = [] ∨ Ended l := by
    rcases spells_elim hq.limit with ⟨_, rfl⟩ | ⟨n, _, hn⟩
    · exact Or.inl rfl
    · exact Or.inr (ended_decimal hn)
  have hsorting : s = [] ∨ Ended s := by
    rcases spells_elim hq.sorting with ⟨_, rfl⟩ | ⟨k, _, hk⟩
    · exact Or.inl rfl
    · exact Or.inr (ended_sorting hk)
  have hcomparison : c = [] ∨ Ended c := by
    rcases spells_elim hq.comparison with ⟨_, rfl⟩ | ⟨k, _, hk⟩
    · exact Or.inl rfl
    · exact Or.inr (ended_comparison hk)
  rcases ended_append_or hcomparison (ended_append_or hsorting hlimit) with hnil | hrest
  · rw [hnil, List.append_nil]
    exact ended_head hq.head
  · exact hrest.append h

theorem trimChars_eq (hq : Clauses q h c s l) :
    trimChars (h ++ (c ++ (s ++ l))) = h ++ (c ++ (s ++ l)) := by
  obtain ⟨t, ht⟩ := hq.select_isPrefix (c ++ (s ++ l))
  have hhead : ∀ d ∈ (h ++ (c ++ (s ++ l))).head?, isBlank d = false := by
    rw [← ht]
    simp [selectWord, isBlank]
  exact trimChars_eq_self hhead hq.ended.getLast?

theorem occurs_select (hq : Clauses q h c s l) :
    occurs selectWord (h ++ (c ++ (s ++ l))) = true := by
  obtain ⟨t, ht⟩ := hq.select_isPrefix (c ++ (s ++ l))
  rw [← ht]
  exact Bool.or_eq_true_iff.2 (Or.inl (startsWith_append selectWord t))

end Clauses

theorem normalize_of_spells {q : CanonicalQuery} {text : String}
    (h : Spells q.pieces text.toList) :
    ∃ h c s l, Clauses q h c s l ∧ normalize text = h ++ (c ++ (s ++ l)) := by
  obtain ⟨h', c, s, l, hq, heq⟩ := exists_clauses h.lower
  refine ⟨h', c, s, l, hq, ?_⟩
  rw [normalize, lowerChars_of_isAscii (h.isAscii q.isAscii_pieces), heq, hq.trimChars_eq]

/-- Every clause of a canonical query is recovered from every way of writing it. -/
theorem parse_of_spells (q : CanonicalQuery) (text : String) (h : Spells q.pieces text.toList) :
    parse text = .ok (some q.meaning) := by
  obtain ⟨h', c, s, l, hq, hnormal⟩ := normalize_of_spells h
  have hquery : isQuery text = true := by
    rw [isQuery, hnormal]
    exact hq.occurs_select
  rw [parse, if_pos hquery, hnormal, hq.parseNormal_eq]
  rfl

/-- A query whose names and value are made of keywords. -/
def keywordQuery : CanonicalQuery where
  columns := some (⟨"Limit".toList, by decide⟩, [⟨"order".toList, by decide⟩])
  table := ⟨"where_by".toList, by decide⟩
  comparison := some {
    column := ⟨"like".toList, by decide⟩
    operator := .like
    quote := '"'
    value := "Where by select".toList
    isQuote := by decide
    isAscii := by decide
    not_isQuote := by decide
    not_order := by decide +kernel
    not_limit := by decide +kernel
    plain := by decide }
  sorting := some ⟨⟨"cast".toList, by decide⟩, some ⟨"as".toList, by decide⟩, some .descending⟩
  limit := some ⟨"007".toList, by decide, by decide, by decide⟩

def keywordText : String :=
  "SELECT Limit , order from where_by WHERE like\tLike \"%Where by select%\"\n" ++
    "ORDER By CAST (cast AS as) desc limit 007"

theorem parse_of_spells_keywords :
    parse keywordText = .ok (some ⟨some ["limit", "order"],
      some (.holds "like" .like "where by select"), some ⟨"cast", true⟩, some 7⟩) := by
  let parts : List String :=
    ["SELECT", " ", "Limit", " ", ",", " ", "order", " ", "from", " ", "where_by", " ", "WHERE",
      " ", "like", "\t", "Like", " ", "\"%Where by select%\"", "\n", "ORDER", " ", "By", " ",
      "CAST", " ", "(", "", "cast", " ", "AS", " ", "as", "", ")", " ", "desc", " ", "limit", " ",
      "007"]
  have hspells : Spells keywordQuery.pieces keywordText.toList :=
    ⟨parts.map String.toList, by decide +kernel, by decide +kernel⟩
  exact (parse_of_spells keywordQuery keywordText hspells).trans (by decide +kernel)

end TableTalk.Query

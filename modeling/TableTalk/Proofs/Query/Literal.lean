import TableTalk.Proofs.Csv.Scan
import TableTalk.Proofs.Query.Occurrence
import TableTalk.Proofs.Query.Recovery
import TableTalk.Proofs.Query.Refusal
import TableTalk.Proofs.Text.Lower

/-!
# Quoted values

The searches for the clauses of a query know nothing of quotes. A condition that compares a column
with a quoted value is read with the whole value, and with no other clause, exactly if nothing in
the value looks like the end of a condition, a limit or an ordering. Every other value is read in
another way, and rows may be lost.
-/

namespace TableTalk.Query

open Text

/-- No search for a clause finds anything in the text. -/
structure IsInert (v : List Char) : Prop where
  ending : ¬ Occurs IsEnding v
  limit : ¬ Occurs IsLimit v
  ordering : ¬ Occurs IsOrdering v

theorem isInert_iff {v : List Char} :
    upTo? conditionEnds v = some v ∧ limitDigits v = none ∧ ordering v = none ↔ IsInert v := by
  rw [upTo?_conditionEnds_eq_self_iff, limitDigits_eq_none_iff, ordering_eq_none_iff]
  exact ⟨fun ⟨hending, hlimit, hordering⟩ => ⟨hending, hlimit, hordering⟩,
    fun h => ⟨h.ending, h.limit, h.ordering⟩⟩

instance (v : List Char) : Decidable (IsInert v) :=
  decidable_of_iff _ isInert_iff

def literalText (c v : String) : String :=
  "SELECT * FROM t WHERE " ++ c ++ " = '" ++ v ++ "'"

def literalQuery (c v : String) : Query where
  projection := none
  filter := some (.holds (lower c) .equals (lower v))
  sort := none
  limit := none

def wholeTable : CanonicalQuery where
  columns := none
  table := ⟨['t'], by decide⟩
  comparison := none
  sorting := none
  limit := none

def wholeHead : List Char :=
  selectWord ++ ([' '] ++ (['*'] ++ ([' '] ++ (fromWord ++ ([' '] ++ ['t'])))))

theorem spells_wholeHead : Spells (wholeTable.headPieces.map Piece.lower) wholeHead :=
  ⟨[selectWord, [' '], ['*'], [' '], fromWord, [' '], ['t']], by decide, rfl⟩

def quotedClause (column t : List Char) : List Char :=
  column ++ ([' '] ++ '=' :: ([' '] ++ '\'' :: t))

def quotedText (column t : List Char) : List Char :=
  wholeHead ++ ([' '] ++ (whereWord ++ ([' '] ++ quotedClause column t)))

theorem head?_quotedText (column t : List Char) :
    ∀ c ∈ (quotedText column t).head?, isBlank c = false := by
  simp [quotedText, wholeHead, selectWord, isBlank]

theorem Ended.quotedText {t : List Char} (h : Ended t) (column : List Char) :
    Ended (quotedText column t) := by
  have hclause : Ended (quotedClause column t) :=
    ((((h.append ['\'']).append [' ']).append ['=']).append [' ']).append column
  exact (((hclause.append [' ']).append whereWord).append [' ']).append wholeHead

def literalStart : List Char :=
  "SELECT * FROM t WHERE ".toList

theorem toList_literalText (c v : String) :
    (literalText c v).toList =
      (literalStart ++ (c.toList ++ [' ', '=', ' ', '\''])) ++ (v.toList ++ ['\'']) := by
  have hparts : ∀ a b d : String, (a ++ c ++ b ++ v ++ d).toList =
      (a.toList ++ (c.toList ++ b.toList)) ++ (v.toList ++ d.toList) := by
    simp only [String.toList_append, List.append_assoc, implies_true]
  exact hparts "SELECT * FROM t WHERE " " = '" "'"

theorem map_toLower_literalStart :
    literalStart.map Char.toLower = wholeHead ++ ([' '] ++ (whereWord ++ [' '])) := by
  decide +kernel

theorem lowerChars_literalText {c : String} (hc : IsName (c.toList.map Char.toLower)) (v : String) :
    lowerChars (literalText c v).toList =
      quotedText (c.toList.map Char.toLower) (lowerChars v.toList ++ ['\'']) := by
  have hname : IsAscii c.toList :=
    isAscii_of_map_toLower fun d hd => toNat_lt_of_isWordAscii (hc.isWordAscii d hd)
  have hascii : IsAscii (literalStart ++ (c.toList ++ [' ', '=', ' ', '\''])) :=
    IsAscii.append (by decide +kernel) (hname.append (by decide))
  have hcut :
      reachesCased (literalStart ++ (c.toList ++ [' ', '=', ' ', '\''])).reverse = false := by
    rw [List.reverse_append, List.reverse_append, List.append_assoc]
    rfl
  rw [toList_literalText, lowerChars_ascii_append hascii hcut,
    lowerChars_append_ascii v.toList (by decide) rfl, List.map_append, List.map_append,
    map_toLower_literalStart]
  simp only [quotedText, quotedClause, List.append_assoc]
  rfl

theorem normalize_literalText {c : String} (hc : IsName (c.toList.map Char.toLower)) (v : String) :
    normalize (literalText c v) =
      quotedText (c.toList.map Char.toLower) (lowerChars v.toList ++ ['\'']) := by
  have hquote : Ended ['\''] := ⟨[], '\'', rfl, by decide⟩
  rw [normalize, lowerChars_literalText hc]
  exact trimChars_eq_self (head?_quotedText _ _) ((hquote.append _).quotedText _).getLast?

section Reading

variable {x y : List Char}

theorem harmless_sign (t : List Char) : Harmless ([' '] ++ '=' :: t) :=
  harmless_room (by decide) (by decide) (by decide) (by decide) t

/-- A search for another clause goes on in the value. -/
theorem findFirst_quotedText {α : Type} {word : List Char} {starts : Char → Bool}
    {look : List Char → Option α} (hs : ClauseSearch word starts look) (hword : word ≠ whereWord)
    (hx : IsName x) (t : List Char) :
    findFirst look (quotedText x t) = findFirst look t := by
  have hroom : IsRoom [' '] := by decide
  have hend : ¬ word <:+ whereWord := hs.not_suffix_of_ne (by decide) hword
  have hwhere : Harmless ([' '] ++ (whereWord ++ ([' '] ++ quotedClause x t))) :=
    harmless_gap ⟨by simp, hroom⟩ (by decide) (by decide) _
  rw [quotedText, pass_head hs spells_wholeHead hwhere, hs.pass_room hroom,
    hs.pass_fixed (by decide) hend (by simp; decide), hs.pass_room hroom, quotedClause,
    hs.pass_name hx (harmless_sign _), hs.pass_room hroom, hs.pass_char (by decide),
    hs.pass_room hroom, hs.pass_char (by decide)]

theorem selected_quotedText (t : List Char) :
    (selected (quotedText x t)).bind projectionOf = none := by
  obtain ⟨p, hp, hselected⟩ := selected_head spells_wholeHead
  rw [quotedText, hselected, Option.bind_some, projectionOf_columns hp]
  rfl

theorem upTo?_quotedClause {s t : List Char} (hx : IsName x)
    (ht : upTo? conditionEnds t = some s) :
    upTo? conditionEnds (quotedClause x t) = some (quotedClause x s) := by
  have hroom : IsRoom [' '] := by decide
  have hopen := upTo?_cons (conditionEnds_of_not_blank '\'' t (by decide)) ht
  have hvalue := upTo?_conditionEnds_room hroom (by decide) (not_prefix_cons (by decide) _) hopen
  have hsign := upTo?_cons (conditionEnds_of_not_blank '=' _ (by decide)) hvalue
  have hcolumn := upTo?_conditionEnds_room hroom (by decide) (not_prefix_cons (by decide) _) hsign
  exact upTo?_word conditionEnds_of_not_blank hx.isBlank_eq_false hcolumn

theorem condition_quotedText {s t : List Char} (hx : IsName x)
    (ht : upTo? conditionEnds t = some s) :
    condition (quotedText x t) = some (quotedClause x s) := by
  have hroom : IsRoom [' '] := by decide
  have hwhere : Harmless ([' '] ++ (whereWord ++ ([' '] ++ quotedClause x t))) :=
    harmless_gap ⟨by simp, hroom⟩ (by decide) (by decide) _
  have hfound : conditionHere (whereWord ++ ([' '] ++ quotedClause x t)) =
      some (quotedClause x s) := by
    have hclause := upTo?_quotedClause hx ht
    obtain ⟨d, x, rfl, -, hd⟩ := hx.exists_cons
    exact conditionHere_of_upTo? ⟨by simp, hroom⟩ hd hclause
  rw [condition, quotedText, pass_head clauseSearch_condition spells_wholeHead hwhere,
    clauseSearch_condition.pass_room hroom, findFirst_of_some hfound]

def bareValue (s : List Char) : List Char :=
  (trimChars ([' '] ++ '\'' :: s)).filter fun c => !isQuote c

theorem mem_of_mem_trimChars {cs : List Char} {d : Char} (h : d ∈ trimChars cs) : d ∈ cs := by
  obtain ⟨w, w', -, -, hcs, -⟩ := exists_trimChars cs
  rw [hcs]
  exact List.mem_append_right w (List.mem_append_left w' h)

theorem filterOf_quotedClause {s : List Char} (hx : IsName x)
    (hs : ∀ c ∈ s, isQuote c = false → IsLowered c) :
    filterOf (quotedClause x s) =
      .holds (String.ofList x) .equals (String.ofList (bareValue s)) := by
  have hroom : IsRoom [' '] := by decide
  have hsign : '=' ∉ x ++ [' '] := by
    rw [List.mem_append, not_or]
    exact ⟨hx.notMem (by decide), by decide⟩
  have hcut := cutAt?_of_notMem hsign ([' '] ++ '\'' :: s)
  rw [List.append_assoc] at hcut
  have hcolumn : trimChars (x ++ [' ']) = x := trimChars_name hx isRoom_nil hroom
  have hlowered : lowerChars (bareValue s) = bareValue s := by
    refine lowerChars_of_isLowered fun c hc => ?_
    obtain ⟨hmem, hbare⟩ := List.mem_filter.1 hc
    have hquote : isQuote c = false := by simpa using hbare
    have hcases := mem_of_mem_trimChars hmem
    simp only [List.cons_append, List.nil_append, List.mem_cons] at hcases
    rcases hcases with rfl | rfl | hmem
    · exact ⟨by decide, by decide⟩
    · exact absurd hquote (by decide)
    · exact hs c hmem hquote
  rw [filterOf, quotedClause, hcut]
  simp only [hcolumn]
  rw [← bareValue, hlowered]

theorem bareValue_quoted (hy : ∀ c ∈ y, isQuote c = false) : bareValue (y ++ ['\'']) = y := by
  have hlast : ∀ c ∈ ('\'' :: (y ++ ['\''])).getLast?, isBlank c = false := by
    rw [← List.cons_append, List.getLast?_concat]
    simp [isBlank]
  have htrim : trimChars ([' '] ++ ('\'' :: (y ++ ['\'']) ++ [])) = '\'' :: (y ++ ['\'']) :=
    trimChars_append (by decide) rfl (by simp [isBlank]) hlast
  have hbare : ∀ c ∈ y, (!isQuote c) = true := fun c hc => by rw [hy c hc, Bool.not_false]
  rw [List.append_nil] at htrim
  rw [bareValue, htrim, List.filter_cons_of_neg (by decide), List.filter_append,
    List.filter_eq_self.2 hbare, List.filter_cons_of_neg (by decide), List.filter_nil,
    List.append_nil]

theorem length_bareValue_le (s : List Char) : (bareValue s).length ≤ s.length := by
  have htrim : trimChars ([' '] ++ '\'' :: s) = trimRight ('\'' :: s) := by
    rw [trimChars, trimLeft_append (by decide), trimLeft_eq_self (by simp [isBlank])]
  have hsub : (bareValue s).length ≤ (('\'' :: s).filter fun c => !isQuote c).length := by
    rw [bareValue, htrim]
    exact ((trimRight_isPrefix _).sublist.filter _).length_le
  rw [List.filter_cons_of_neg (by decide)] at hsub
  exact hsub.trans (List.length_filter_le _ s)

theorem IsOrderBy.quote_notMem {k : List Char} (hk : IsOrderBy k) : '\'' ∉ k := by
  obtain ⟨w, hw, rfl⟩ := hk
  simp only [List.mem_append, not_or]
  exact ⟨by decide, hw.notMem (by decide), by decide⟩

theorem isInert_append_quote_iff : IsInert (y ++ ['\'']) ↔ IsInert y := by
  have hending : Occurs IsEnding (y ++ ['\'']) ↔ Occurs IsEnding y := by
    apply occurs_append_singleton_iff
    rintro _ ⟨w, k, hw, hk, rfl⟩
    refine ⟨List.append_ne_nil_of_left_ne_nil hw.1 k, ?_⟩
    rw [List.mem_append, not_or]
    refine ⟨hw.notMem (by decide), ?_⟩
    rcases hk with rfl | hk
    · decide
    · exact hk.quote_notMem
  have hlimit : Occurs IsLimit (y ++ ['\'']) ↔ Occurs IsLimit y := by
    apply occurs_append_singleton_iff
    rintro _ ⟨w, d, hw, hd, rfl⟩
    refine ⟨by simp [limitWord], ?_⟩
    simp only [List.mem_append, List.mem_singleton, not_or]
    refine ⟨by decide, hw.notMem (by decide), ?_⟩
    rintro rfl
    exact absurd hd (by decide)
  have hordering : Occurs IsOrdering (y ++ ['\'']) ↔ Occurs IsOrdering y := by
    apply occurs_append_singleton_iff
    rintro _ ⟨k, w, d, hk, hw, hd, rfl⟩
    refine ⟨by simp, ?_⟩
    simp only [List.mem_append, List.mem_singleton, not_or]
    refine ⟨hk.quote_notMem, hw.notMem (by decide), ?_⟩
    rintro rfl
    exact absurd hd (by decide)
  constructor
  · exact fun h => ⟨mt hending.2 h.ending, mt hlimit.2 h.limit, mt hordering.2 h.ordering⟩
  · exact fun h => ⟨mt hending.1 h.ending, mt hlimit.1 h.limit, mt hordering.1 h.ordering⟩

/-- A value that is cut short is another value. -/
theorem bareValue_eq_iff {s : List Char} (hy : ∀ c ∈ y, isQuote c = false)
    (hs : upTo? conditionEnds (y ++ ['\'']) = some s) : bareValue s = y ↔ s = y ++ ['\''] := by
  constructor
  · intro hbare
    obtain ⟨rest, hrest, hends⟩ := exists_of_upTo? hs
    rcases List.eq_nil_or_concat rest with rfl | ⟨rest, d, rfl⟩
    · rw [hrest, List.append_nil]
    · rw [List.concat_eq_append, ← List.append_assoc] at hrest
      obtain ⟨hcut, hd⟩ := List.append_inj' hrest rfl
      obtain rfl := List.singleton_inj.1 hd
      have hpos : 0 < rest.length := by
        rw [List.length_pos_iff]
        rintro rfl
        rw [List.concat_eq_append, List.nil_append, conditionEnds_of_not_blank _ _ (by decide)]
          at hends
        exact absurd hends (by decide)
      have hlength : y.length = s.length + rest.length := by rw [hcut, List.length_append]
      have hle := length_bareValue_le s
      rw [hbare] at hle
      omega
  · rintro rfl
    exact bareValue_quoted hy

theorem parseNormal_quotedText {s t : List Char} (hx : IsName x)
    (ht : upTo? conditionEnds t = some s) (hs : ∀ c ∈ s, isQuote c = false → IsLowered c) :
    parseNormal (quotedText x t) = ((limitDigits t).mapM limitOf).map fun limit => {
      projection := none
      filter := some (.holds (String.ofList x) .equals (String.ofList (bareValue s)))
      sort := (ordering t).map fun (column, descending) => ⟨String.ofList column, descending⟩
      limit } := by
  rw [parseNormal, selected_quotedText, condition_quotedText hx ht, Option.map_some,
    filterOf_quotedClause hx hs, limitDigits,
    findFirst_quotedText clauseSearch_limit (by decide) hx, ordering,
    findFirst_quotedText clauseSearch_ordering (by decide) hx]
  change ((limitDigits t).mapM limitOf >>= _) = _
  cases (limitDigits t).mapM limitOf <;> rfl

theorem parseNormal_quotedText_iff (hx : IsName x) (hy : ∀ c ∈ y, isQuote c = false ∧ IsLowered c) :
    parseNormal (quotedText x (y ++ ['\''])) = .ok {
      projection := none
      filter := some (.holds (String.ofList x) .equals (String.ofList y))
      sort := none
      limit := none } ↔ IsInert y := by
  rw [← isInert_append_quote_iff]
  let t := y ++ ['\'']
  have hempty : conditionEnds [] = true := rfl
  obtain ⟨s, hs⟩ := exists_upTo? hempty t
  have hlowered : ∀ c ∈ s, isQuote c = false → IsLowered c := by
    intro c hc hquote
    obtain ⟨rest, hrest, -⟩ := exists_of_upTo? hs
    have hmem : c ∈ t := hrest ▸ List.mem_append_left rest hc
    rcases List.mem_append.1 hmem with hmem | hmem
    · exact (hy c hmem).2
    · rw [List.mem_singleton.1 hmem] at hquote
      exact absurd hquote (by decide)
  have hfull : bareValue s = y ↔ s = t := bareValue_eq_iff (fun c hc => (hy c hc).1) hs
  rw [parseNormal_quotedText hx hs hlowered, map_eq_ok_iff]
  constructor
  · rintro ⟨limit, hlimit, hquery⟩
    obtain ⟨-, hfilter, hsort, rfl⟩ := Query.mk.inj hquery
    have hbare : bareValue s = y := String.ofList_injective (by simpa using hfilter)
    have hdigits : limitDigits t = none := by
      cases hfound : limitDigits t with
      | none => rfl
      | some digits =>
        rw [hfound, Option.mapM_some] at hlimit
        obtain ⟨_, -, hnone⟩ := map_eq_ok_iff.1 hlimit
        cases hnone
    rw [hfull.1 hbare] at hs
    exact ⟨upTo?_conditionEnds_eq_self_iff.1 hs, limitDigits_eq_none_iff.1 hdigits,
      ordering_eq_none_iff.1 (Option.map_eq_none_iff.1 hsort)⟩
  · rintro ⟨hending, hlimit, hordering⟩
    have hself := upTo?_conditionEnds_eq_self_iff.2 hending
    refine ⟨none, by rw [limitDigits_eq_none_iff.2 hlimit]; rfl, ?_⟩
    rw [hfull.2 (Option.some.inj (hs.symm.trans hself)), ordering_eq_none_iff.2 hordering]
    rfl

end Reading

/-- No quote comes in with lower case. -/
theorem isQuote_of_mem_lowerChars {cs : List Char} (h : cs.any isQuote = false) :
    ∀ d ∈ lowerChars cs, isQuote d = false := by
  intro d hd
  by_contra hquote
  rw [Bool.not_eq_false] at hquote
  have hcases : d = '\'' ∨ d = '"' := by simpa [isQuote] using hquote
  have hmem : d ∈ cs := by
    apply mem_of_mem_lowerChars hd
    · rcases hcases with rfl | rfl <;> decide
    · rcases hcases with rfl | rfl <;> decide
  rw [List.any_eq_false] at h
  exact h d hmem hquote

/-- A quoted value is read as it stands exactly if it is inert in lower case. -/
theorem parse_literalText_iff {c v : String} (hc : IsName (c.toList.map Char.toLower))
    (hv : v.toList.any isQuote = false) :
    parse (literalText c v) = .ok (some (literalQuery c v)) ↔ IsInert (lowerChars v.toList) := by
  have hnormal := normalize_literalText hc v
  have hselect : isQuery (literalText c v) = true := by
    rw [isQuery, hnormal, occurs_eq_true_iff]
    exact (List.prefix_append selectWord _).isInfix
  have hname : lower c = String.ofList (c.toList.map Char.toLower) := by
    rw [lower, lowerChars_of_isAscii]
    exact isAscii_of_map_toLower fun d hd => toNat_lt_of_isWordAscii (hc.isWordAscii d hd)
  have hvalue : ∀ d ∈ lowerChars v.toList, isQuote d = false ∧ IsLowered d := fun d hd =>
    ⟨isQuote_of_mem_lowerChars hv d hd, isLowered_of_mem_lowerChars hd⟩
  rw [← parseNormal_quotedText_iff hc hvalue, parse, if_pos hselect, hnormal, map_eq_ok_iff,
    literalQuery, hname]
  simp only [Option.some.injEq, exists_eq_right, lower]

structure IsFirstHeader (headers : List String) (name : String) (index : Nat) : Prop where
  equal : ∃ header, headers[index]? = some header ∧ lower header = lower name
  first : ∀ j < index, ∀ header, headers[j]? = some header → lower header ≠ lower name

/-- The query for a quoted value returns, in the order of the table, the rows whose cell in the
first column of the name holds the value, ignoring case. -/
def FindsLiteral (strict : Bool) (t : Table) (c v : String) : Prop :=
  ∃ index, IsFirstHeader t.headers c index ∧
    evaluate strict t (literalText c v) = .ok {
      columns := t.headers
      rows := (t.rows.filter fun row => IsWithin (lower v) (lower (cellAt row index))).map
        fun row => row.map fun cell => cell.getD "" }

theorem isFirstHeader_of_resolve {headers : List String} {name : String} {index : Nat}
    (h : resolve headers name = .column name index) : IsFirstHeader headers name index := by
  rw [resolve] at h
  split at h
  · next i hfind =>
    obtain ⟨-, rfl⟩ := Resolution.column.inj h
    obtain ⟨hlt, hequal, hfirst⟩ := List.findIdx?_eq_some_iff_getElem.1 hfind
    refine ⟨⟨headers[i], List.getElem?_eq_getElem hlt, by simpa using hequal⟩, ?_⟩
    intro j hj header hheader
    obtain ⟨hlt', rfl⟩ := List.getElem?_eq_some_iff.1 hheader
    simpa using hfirst j hj
  · cases h

theorem resolve_lower {headers : List String} {name : String} {index : Nat}
    (h : resolve headers name = .column name index) :
    resolve headers (lower name) = .column (lower name) index := by
  rw [resolve] at h ⊢
  rw [lower_lower]
  split at h
  · next i hfind => rw [(Resolution.column.inj h).2]
  · cases h

theorem missing_literalQuery {headers : List String} {c : String} (hc : c ∈ headers) (v : String) :
    missing headers (literalQuery c v) = [] := by
  rw [missing_eq_nil_iff]
  intro name hname
  obtain rfl : name = lower c := by
    simpa [namedColumns, literalQuery, Filter.column?] using hname
  exact ⟨c, hc, (lower_lower c).symm⟩

theorem filterRows_literalQuery {headers : List String} {c v : String} {index : Nat}
    (h : resolve headers c = .column c index) (rows : List (List Cell)) :
    filterRows (literalQuery c v).filter (resolveFilter headers (literalQuery c v).filter) rows =
      rows.filter fun row => IsWithin (lower v) (lower (cellAt row index)) := by
  rw [literalQuery, resolveFilter, resolve_lower h]
  refine List.filter_congr fun row _ => ?_
  rw [passes, lower_lower, Bool.eq_iff_iff, contains_eq_true_iff, decide_eq_true_eq]

theorem columns_resolveProjection_none (headers : List String) :
    (resolveProjection headers none).map (fun r => headers[r.index]?) = headers.map some := by
  apply List.ext_getElem
  · simp [resolveProjection]
  · intro i hi hi'
    simp [resolveProjection, Resolution.index]

theorem project_resolveProjection_none {headers : List String} {row : List Cell}
    (h : row.length = headers.length) :
    project (resolveProjection headers none) row = row.map fun cell => cell.getD "" := by
  apply List.ext_getElem
  · simp [project, resolveProjection, h]
  · intro i hi hi'
    have hlt : i < row.length := by simpa using hi'
    simp [project, resolveProjection, Resolution.index, cellAt, hlt]

/-- A query for a quoted value in a table read from CSV text is read with the value as it stands
exactly if the value is inert in lower case, and then it returns the rows that hold the value. -/
theorem evaluate_literalText {csv c v : String} {t : Table} (strict : Bool)
    (ht : Csv.parse csv = .ok t) (hc : c ∈ t.headers) (hname : IsName (c.toList.map Char.toLower))
    (hv : v.toList.any isQuote = false) :
    (parse (literalText c v) = .ok (some (literalQuery c v)) ↔ IsInert (lowerChars v.toList)) ∧
      (IsInert (lowerChars v.toList) → FindsLiteral strict t c v) := by
  refine ⟨parse_literalText_iff hname hv, fun hinert => ?_⟩
  have hshape := Csv.isRectangular_of_parse ht
  obtain ⟨index, hindex⟩ := resolve_of_isHeader ⟨c, hc, rfl⟩
  obtain ⟨p, hplan⟩ := exists_plan hshape.ne_nil (literalQuery c v)
  obtain ⟨hprojection, hfilter, hsort, hcolumns⟩ := plan_eq_ok hplan
  have hheaders : p.columns = t.headers := by
    rw [hprojection] at hcolumns
    exact List.map_injective_iff.2 (fun _ _ => Option.some.inj)
      (hcolumns.symm.trans (columns_resolveProjection_none t.headers))
  refine ⟨index, isFirstHeader_of_resolve hindex, ?_⟩
  rw [evaluate_of_parse_some ((parse_literalText_iff hname hv).2 hinert),
    answer_of_none_missing (missing_literalQuery hc v), answer_of_orderRows hplan, hfilter, hsort,
    filterRows_literalQuery hindex, hprojection, hheaders]
  refine congrArg (fun rows => Except.ok (Answer.mk t.headers rows)) ?_
  refine List.map_congr_left fun row hrow => ?_
  exact project_resolveProjection_none (hshape.length_eq row (List.mem_of_mem_filter hrow))

def notesCsv : String :=
  "Note\nthe limit\nΜΕΡΟΣ = where order 5 twice\n"

def notes : Table where
  headers := ["Note"]
  rows := [[some "the limit"], [some "ΜΕΡΟΣ = where order 5 twice"]]

/-- The value holds an equals sign and keywords that start no clause, and the cell that holds it has
a capital sigma at the end of a word. -/
theorem evaluate_literalText_keywords :
    Csv.parse notesCsv = .ok notes ∧ FindsLiteral true notes "Note" "Μερος = WHERE order 5" := by
  have ht : Csv.parse notesCsv = .ok notes := by decide +kernel
  have hname : IsName ("Note".toList.map Char.toLower) := by decide +kernel
  have hv : "Μερος = WHERE order 5".toList.any isQuote = false := by decide +kernel
  have hinert : IsInert (lowerChars "Μερος = WHERE order 5".toList) := by decide +kernel
  exact ⟨ht, (evaluate_literalText true ht (by decide) hname hv).2 hinert⟩

def limitNote : Table where
  headers := ["c"]
  rows := [[some "no limit 0"]]

/-- The row that holds the value is not returned. -/
theorem not_findsLiteral_limit :
    Csv.parse "c\nno limit 0\n" = .ok limitNote ∧ "c" ∈ limitNote.headers ∧
      IsName ("c".toList.map Char.toLower) ∧ "no limit 0".toList.any isQuote = false ∧
      ¬ FindsLiteral false limitNote "c" "no limit 0" := by
  refine ⟨by decide +kernel, by decide, by decide +kernel, by decide +kernel, ?_⟩
  rintro ⟨index, hindex, heval⟩
  obtain ⟨header, hheader, -⟩ := hindex.equal
  obtain rfl : index = 0 := by
    have hlt := (List.getElem?_eq_some_iff.1 hheader).1
    simpa [limitNote] using hlt
  have hnone : evaluate false limitNote (literalText "c" "no limit 0") = .ok ⟨["c"], []⟩ := by
    decide +kernel
  rw [hnone] at heval
  exact absurd (congrArg List.length (Answer.mk.inj (Except.ok.inj heval)).2) (by decide +kernel)

end TableTalk.Query

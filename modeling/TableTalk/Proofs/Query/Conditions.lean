import TableTalk.Proofs.Query.Spelling

/-!
# The condition of a canonical query

No white space inside a condition is followed by `order by` or `limit`, so it reaches to the clause
after it or to the end of the text. An equals sign stands in it only as the operator; what is
compared is between the quotes.
-/

namespace TableTalk.Query

open Text

theorem conditionEnds_of_not_blank (c : Char) (rest : List Char) (hc : isBlank c = false) :
    conditionEnds (c :: rest) = false := by
  rw [conditionEnds, afterBlanks?_of_head (by simpa using hc)]
  rfl

theorem conditionEnds_eq_false {cs : List Char} (hne : cs ≠ [])
    (h : ∀ k ∈ [orderWord, limitWord], ¬ k <+: skipBlanks cs) : conditionEnds cs = false := by
  have hempty : cs.isEmpty = false := List.isEmpty_eq_false_iff.2 hne
  rw [conditionEnds, hempty, Bool.false_or]
  cases hafter : afterBlanks? cs with
  | none => rfl
  | some rest =>
    rw [eq_skipBlanks_of_afterBlanks? hafter]
    have horder : afterOrderBy? (skipBlanks cs) = none := by
      rw [afterOrderBy?_eq, afterKeyword?_eq_none (h orderWord (by decide))]
      rfl
    have hlimit : startsWith limitWord (skipBlanks cs) = false :=
      startsWith_eq_false (h limitWord (by decide))
    simp only [Option.any_some, horder, hlimit, Option.isSome_none, Bool.or_false]

theorem conditionEnds_limit {w : List Char} (hw : Piece.gap.Admits w) (rest : List Char) :
    conditionEnds (w ++ (limitWord ++ rest)) = true := by
  have hafter : afterBlanks? (w ++ (limitWord ++ rest)) = some (limitWord ++ rest) :=
    afterBlanks?_gap hw (by decide) _
  simp only [conditionEnds, hafter, Option.any_some, startsWith_append, Bool.or_true]

theorem conditionEnds_order {w w' : List Char} (hw : Piece.gap.Admits w)
    (hw' : Piece.gap.Admits w') (rest : List Char) :
    conditionEnds (w ++ (orderWord ++ (w' ++ (byWord ++ rest)))) = true := by
  have hafter : afterBlanks? (w ++ (orderWord ++ (w' ++ (byWord ++ rest)))) =
      some (orderWord ++ (w' ++ (byWord ++ rest))) :=
    afterBlanks?_gap hw (by decide) _
  simp only [conditionEnds, hafter, Option.any_some, afterOrderBy?_append hw', Option.isSome_some,
    Bool.true_or, Bool.or_true]

theorem upTo?_conditionEnds_room {w rest t : List Char} (hw : IsRoom w) {d : Char}
    (hd : isBlank d = false) (h : ∀ k ∈ [orderWord, limitWord], ¬ k <+: d :: rest)
    (hrest : upTo? conditionEnds (d :: rest) = some t) :
    upTo? conditionEnds (w ++ d :: rest) = some (w ++ t) := by
  apply upTo?_room _ hw hrest
  intro v hne hv
  apply conditionEnds_eq_false (by simp [hne])
  rwa [skipBlanks_room hv hd]

theorem skipBlanks_append_cons (y : List Char) {d : Char} (hd : isBlank d = false)
    (rest : List Char) : skipBlanks (y ++ d :: rest) = skipBlanks y ++ d :: rest := by
  induction y with
  | nil => exact skipBlanks_of_head (by simpa using hd)
  | cons c y ih =>
    by_cases hc : isBlank c = true
    · simpa only [skipBlanks, List.cons_append, List.dropWhile_cons_of_pos hc] using ih
    · simp only [skipBlanks, List.cons_append, List.dropWhile_cons_of_neg hc]

/-- A value in which neither keyword occurs is passed over up to the character after it. -/
theorem upTo?_conditionEnds_value {v rest t : List Char} {d : Char} (hd : isWord d = false)
    (hblank : isBlank d = false) (hv : ∀ k ∈ [orderWord, limitWord], ¬ k <:+: v)
    (hrest : upTo? conditionEnds (d :: rest) = some t) :
    upTo? conditionEnds (v ++ d :: rest) = some (v ++ t) := by
  apply upTo?_append_of_some _ hrest
  intro y hne hy
  apply conditionEnds_eq_false (by simp [hne])
  intro k hk hprefix
  rw [skipBlanks_append_cons y hblank] at hprefix
  -- The keyword would end before the character after the value, so the value would hold it.
  have hword : ∀ k ∈ [orderWord, limitWord], k.all isWord = true := by decide
  have hinner : k <+: skipBlanks y :=
    keyword_isPrefix (hword k hk) (by simpa using hd) hprefix
  have hsuffix : skipBlanks y <:+ v := (List.dropWhile_suffix isBlank).trans hy
  exact hv k hk (List.infix_iff_prefix_suffix.2 ⟨_, hinner, hsuffix⟩)

theorem Comparison.not_infix (c : Comparison) :
    ∀ k ∈ [orderWord, limitWord], ¬ k <:+: c.value.map Char.toLower := by
  intro k hk
  simp only [List.mem_cons, List.not_mem_nil, or_false] at hk
  rcases hk with rfl | rfl
  · exact c.not_order
  · exact c.not_limit

theorem not_prefix_cons {d : Char} (hd : d ≠ 'o' ∧ d ≠ 'l') (rest : List Char) :
    ∀ k ∈ [orderWord, limitWord], ¬ k <+: d :: rest := by
  intro k hk hprefix
  simp only [List.mem_cons, List.not_mem_nil, or_false] at hk
  rcases hk with rfl | rfl
  · exact hd.1 (List.cons_prefix_cons.1 hprefix).1.symm
  · exact hd.2 (List.cons_prefix_cons.1 hprefix).1.symm

theorem Comparison.quote_ne (c : Comparison) : c.quote ≠ 'o' ∧ c.quote ≠ 'l' := by
  rcases c.quote_eq with h | h <;> rw [h] <;> decide

/-- A condition reaches to its end, whatever stands after that. -/
theorem upTo?_conditionEnds_clause {c : Comparison} {clause rest : List Char}
    (hc : Spells (c.clausePieces.map Piece.lower) clause) (hrest : conditionEnds rest = true) :
    upTo? conditionEnds (clause ++ rest) = some clause := by
  have hquote : upTo? conditionEnds (c.quote :: rest) = some [c.quote] :=
    upTo?_cons (conditionEnds_of_not_blank c.quote _ c.isBlank_quote) (upTo?_of_stop hrest)
  cases hop : c.operator with
  | equals =>
    obtain ⟨w, w', hw, hw', rfl⟩ := spells_equals hop hc
    have hvalue := upTo?_conditionEnds_value c.isWord_quote c.isBlank_quote c.not_infix hquote
    have hopen := upTo?_cons (conditionEnds_of_not_blank c.quote _ c.isBlank_quote) hvalue
    have hroom' := upTo?_conditionEnds_room hw' c.isBlank_quote
      (not_prefix_cons c.quote_ne _) hopen
    have hsign := upTo?_cons (conditionEnds_of_not_blank '=' _ (by decide)) hroom'
    have hroom := upTo?_conditionEnds_room hw (by decide) (not_prefix_cons (by decide) _) hsign
    have hcolumn := upTo?_word conditionEnds_of_not_blank
      c.column.isName_lowerChars.isBlank_eq_false hroom
    simp only [List.append_assoc, List.cons_append, List.nil_append]
    exact hcolumn
  | like =>
    obtain ⟨w, w', hw, hw', rfl⟩ := spells_like hop hc
    have hclose := upTo?_cons (conditionEnds_of_not_blank '%' _ (by decide)) hquote
    have hvalue := upTo?_conditionEnds_value (by decide) (by decide) c.not_infix hclose
    have hpercent := upTo?_cons (conditionEnds_of_not_blank '%' _ (by decide)) hvalue
    have hopen := upTo?_cons (conditionEnds_of_not_blank c.quote _ c.isBlank_quote) hpercent
    have hroom' := upTo?_conditionEnds_room hw'.2 c.isBlank_quote
      (not_prefix_cons c.quote_ne _) hopen
    have hlike := upTo?_word (x := likeWord) conditionEnds_of_not_blank (isBlank_of_all (by decide))
      hroom'
    have hroom := upTo?_conditionEnds_room hw.2 (by decide)
      (by simp [orderWord, limitWord]) hlike
    have hcolumn := upTo?_word conditionEnds_of_not_blank
      c.column.isName_lowerChars.isBlank_eq_false hroom
    simp only [List.append_assoc, List.cons_append, List.nil_append]
    exact hcolumn

theorem clause_head {c : Comparison} {clause : List Char}
    (hc : Spells (c.clausePieces.map Piece.lower) clause) :
    ∃ d t, clause = d :: t ∧ isBlank d = false := by
  obtain ⟨d, y, hcolumn, _, hd⟩ := c.column.isName_lowerChars.exists_cons
  cases hop : c.operator with
  | equals =>
    obtain ⟨w, w', _, _, rfl⟩ := spells_equals hop hc
    exact ⟨d, _, by rw [hcolumn, List.cons_append], hd⟩
  | like =>
    obtain ⟨w, w', _, _, rfl⟩ := spells_like hop hc
    exact ⟨d, _, by rw [hcolumn, List.cons_append], hd⟩

theorem conditionHere_of_upTo? {w t clause : List Char} {d : Char} (hw : Piece.gap.Admits w)
    (hd : isBlank d = false) (h : upTo? conditionEnds (d :: t) = some clause) :
    conditionHere (whereWord ++ (w ++ d :: t)) = some clause := by
  rw [upTo?, conditionEnds_of_not_blank d _ hd] at h
  rw [conditionHere, ← afterKeyword?, afterKeyword?_append whereWord hw.1 hw.2.1,
    skipBlanks_of_head (by simpa using hd)]
  exact h

theorem conditionHere_clause {c : Comparison} {clause w rest : List Char}
    (hc : Spells (c.clausePieces.map Piece.lower) clause) (hw : Piece.gap.Admits w)
    (hrest : conditionEnds rest = true) :
    conditionHere (whereWord ++ (w ++ (clause ++ rest))) = some clause := by
  have hend := upTo?_conditionEnds_clause hc hrest
  obtain ⟨d, t, rfl, hd⟩ := clause_head hc
  exact conditionHere_of_upTo? hw hd hend

theorem beforeLastQuote?_append {cs : List Char} (hne : cs ≠ []) {q : Char}
    (hq : isQuote q = true) : beforeLastQuote? (cs ++ [q]) = some cs := by
  have hinner : ((cs ++ [q]).reverse.dropWhile fun c => !isQuote c).drop 1 = cs.reverse := by
    rw [List.reverse_append, List.reverse_singleton, List.singleton_append, List.dropWhile_cons, hq]
    rfl
  rw [beforeLastQuote?, hinner]
  split
  · next hrev => exact absurd (List.reverse_eq_nil_iff.1 hrev) hne
  · rw [List.reverse_reverse]

namespace Comparison

/-- A lower-case value holds no character that is its own lower case and not in the value. -/
theorem notMem_lower (c : Comparison) {d : Char} (h : d ∉ c.value)
    (hd : ∀ e : Char, e.toNat < 128 → e.toLower = d → e = d) :
    d ∉ c.value.map Char.toLower := by
  intro hmem
  obtain ⟨e, he, hlow⟩ := List.mem_map.1 hmem
  exact h (hd e (c.isAscii e he) hlow ▸ he)

theorem isQuote_lower (c : Comparison) :
    ∀ d ∈ c.value.map Char.toLower, Query.isQuote d = false := by
  intro d hmem
  obtain ⟨e, he, rfl⟩ := List.mem_map.1 hmem
  exact forall_ascii (p := fun e => Query.isQuote e = false → Query.isQuote e.toLower = false)
    (by decide) (c.isAscii e he) (c.isQuote_of_mem he)

theorem lowerChars_lower (c : Comparison) :
    lowerChars (c.value.map Char.toLower) = c.value.map Char.toLower := by
  have hascii : IsAscii (c.value.map Char.toLower) := by
    intro d hmem
    obtain ⟨e, he, rfl⟩ := List.mem_map.1 hmem
    exact toNat_toLower_lt (c.isAscii e he)
  have htwice : ∀ e ∈ c.value, (Char.toLower ∘ Char.toLower) e = e.toLower :=
    fun e he => toLower_toLower (c.isAscii e he)
  rw [lowerChars_of_isAscii hascii, List.map_map, List.map_congr_left htwice]

theorem lower_value (c : Comparison) :
    lower (String.ofList c.value) = String.ofList (c.value.map Char.toLower) := by
  rw [lower, String.toList_ofList, lowerChars_of_isAscii c.isAscii]

end Comparison

theorem filter_quoted (c : Comparison) :
    ((c.quote :: (c.value.map Char.toLower ++ [c.quote])).filter fun d => !isQuote d) =
      c.value.map Char.toLower := by
  let bare : Char → Bool := fun d => !isQuote d
  have hquote : ¬ bare c.quote = true := by simp [bare, c.isQuote]
  have hvalue : ∀ d ∈ c.value.map Char.toLower, bare d = true := by
    intro d hd
    simp only [bare, c.isQuote_lower d hd, Bool.not_false]
  change List.filter bare _ = _
  rw [List.filter_cons_of_neg hquote, List.filter_append, List.filter_eq_self.2 hvalue,
    List.filter_cons_of_neg hquote, List.filter_nil, List.append_nil]

theorem filterOf_equals {c : Comparison} (hop : c.operator = .equals) {clause : List Char}
    (hc : Spells (c.clausePieces.map Piece.lower) clause) :
    filterOf clause = .holds c.column.lowered .equals (lower (String.ofList c.value)) := by
  obtain ⟨w, w', hw, hw', rfl⟩ := spells_equals hop hc
  have hnone : '=' ∉ c.column.lowerChars ++ w := by
    rw [List.mem_append, not_or]
    exact ⟨c.column.isName_lowerChars.notMem (by decide), hw.notMem (by decide)⟩
  have hcut := cutAt?_of_notMem hnone (w' ++ (c.quote :: (c.value.map Char.toLower ++ [c.quote])))
  rw [List.append_assoc] at hcut
  have hcolumn : trimChars (c.column.lowerChars ++ w) = c.column.lowerChars :=
    trimChars_name c.column.isName_lowerChars isRoom_nil hw
  have hvalue : trimChars (w' ++ (c.quote :: (c.value.map Char.toLower ++ [c.quote]))) =
      c.quote :: (c.value.map Char.toLower ++ [c.quote]) := by
    let quoted := c.quote :: (c.value.map Char.toLower ++ [c.quote])
    have hhead : ∀ d ∈ quoted.head?, isBlank d = false := by simp [quoted, c.isBlank_quote]
    have hlast : ∀ d ∈ quoted.getLast?, isBlank d = false := by
      rw [show quoted = (c.quote :: c.value.map Char.toLower) ++ [c.quote] from rfl,
        List.getLast?_concat]
      simp [c.isBlank_quote]
    have h := trimChars_append hw'.1 isRoom_nil.1 hhead hlast
    rwa [List.append_nil] at h
  rw [filterOf, hcut]
  simp only [hcolumn, hvalue, filter_quoted, c.lowerChars_lower, c.lower_value, Name.lowered_eq]

theorem likeTest_clause {c : Comparison} (hop : c.operator = .like) {clause : List Char}
    (hc : Spells (c.clausePieces.map Piece.lower) clause) :
    likeTest clause =
      some (c.column.lowerChars, '%' :: (c.value.map Char.toLower ++ ['%'])) := by
  obtain ⟨w, w', hw, hw', rfl⟩ := spells_like hop hc
  let pattern := '%' :: (c.value.map Char.toLower ++ ['%'])
  have hpattern : '%' :: (c.value.map Char.toLower ++ ['%', c.quote]) = pattern ++ [c.quote] := by
    simp [pattern]
  have hword : takeWord? (c.column.lowerChars ++ (w ++ (likeWord ++ (w' ++
      (c.quote :: (pattern ++ [c.quote])))))) =
        some (c.column.lowerChars,
          w ++ (likeWord ++ (w' ++ (c.quote :: (pattern ++ [c.quote]))))) :=
    takeWord?_append c.column.isName_lowerChars (head?_gap hw _)
  have hlike : afterBlanks? (w ++ (likeWord ++ (w' ++ (c.quote :: (pattern ++ [c.quote]))))) =
      some (likeWord ++ (w' ++ (c.quote :: (pattern ++ [c.quote])))) :=
    afterBlanks?_gap hw (by decide) _
  have hquote : afterBlanks? (w' ++ (c.quote :: (pattern ++ [c.quote]))) =
      some (c.quote :: (pattern ++ [c.quote])) :=
    afterBlanks?_gap hw' c.isBlank_quote _
  have hlast : beforeLastQuote? (pattern ++ [c.quote]) = some pattern :=
    beforeLastQuote?_append (by simp [pattern]) c.isQuote
  apply findFirst_of_some
  rw [hpattern, likeHere, hword]
  simp only [hlike, Option.bind_some, dropStart?_append, hquote, c.isQuote, if_true, hlast,
    Option.map_some]
  rfl

theorem filterOf_like {c : Comparison} (hop : c.operator = .like) {clause : List Char}
    (hc : Spells (c.clausePieces.map Piece.lower) clause) :
    filterOf clause = .holds c.column.lowered .like (lower (String.ofList c.value)) := by
  obtain ⟨hsign, hpercent⟩ := c.plain hop
  have hpercent' : '%' ∉ c.value.map Char.toLower :=
    c.notMem_lower hpercent fun e he => forall_ascii
      (p := fun e => e.toLower = '%' → e = '%') (by decide) he
  have hsign' : '=' ∉ c.value.map Char.toLower :=
    c.notMem_lower hsign fun e he => forall_ascii (p := fun e => e.toLower = '=' → e = '=')
      (by decide) he
  have hcut : cutAt? ['='] clause = none := by
    obtain ⟨w, w', hw, hw', rfl⟩ := spells_like hop hc
    apply cutAt?_eq_none
    have hquote : '=' ≠ c.quote := by
      rcases c.quote_eq with h | h <;> rw [h] <;> decide
    have hcolumn : '=' ∉ c.column.lowerChars := c.column.isName_lowerChars.notMem (by decide)
    have hroom : '=' ∉ w := hw.2.notMem (by decide)
    have hroom' : '=' ∉ w' := hw'.2.notMem (by decide)
    simp [hcolumn, hroom, hroom', hquote, hsign', likeWord]
  have hfilter : ('%' :: (c.value.map Char.toLower ++ ['%'])).filter (· ≠ '%') =
      c.value.map Char.toLower := by
    have hvalue : ∀ d ∈ c.value.map Char.toLower, decide (d ≠ '%') = true := by
      intro d hd
      exact decide_eq_true fun he => hpercent' (he ▸ hd)
    rw [List.filter_cons_of_neg (by decide), List.filter_append, List.filter_eq_self.2 hvalue,
      List.filter_cons_of_neg (by decide), List.filter_nil, List.append_nil]
  rw [filterOf, hcut]
  simp only [likeTest_clause hop hc, hfilter, c.lowerChars_lower, c.lower_value, Name.lowered_eq]

/-- The filter expressed by a condition is its comparison, its value in lower case. -/
theorem filterOf_clause {c : Comparison} {clause : List Char}
    (hc : Spells (c.clausePieces.map Piece.lower) clause) :
    filterOf clause = .holds c.column.lowered c.operator (lower (String.ofList c.value)) := by
  cases hop : c.operator with
  | equals => exact filterOf_equals hop hc
  | like => exact filterOf_like hop hc

end TableTalk.Query

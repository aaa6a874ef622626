import TableTalk.Proofs.Query.Recovery

/-!
# Searches past the end of a query

White space, the keyword `limit` and digits are added behind a text at whose end no white space
stands. A search from any position in the text then goes on into the added text only if it reached
the end, and there it meets `limit` first. So it finds what it found before, with two exceptions:
the limit is found, and a `where` at the very end gets the limit for a condition. The column of an
ordering would be taken from the added text too, but only if the text ended in `order by`.
-/

namespace TableTalk.Query

open Text

def Flush (cs : List Char) : Prop :=
  cs = [] ∨ Ended cs

theorem Flush.suffix {cs y : List Char} (h : Flush cs) (hy : y <:+ cs) : Flush y := by
  rcases h with rfl | ⟨front, d, rfl, hd⟩
  · exact Or.inl (List.suffix_nil.1 hy)
  · obtain ⟨t, ht⟩ := hy
    rcases List.eq_nil_or_concat y with rfl | ⟨y, e, rfl⟩
    · exact Or.inl rfl
    · rw [List.concat_eq_append, ← List.append_assoc] at ht
      have he : e = d := List.singleton_inj.1 (List.append_inj' ht rfl).2
      exact Or.inr ⟨y, e, List.concat_eq_append, he ▸ hd⟩

theorem Ended.flush {y : List Char} (h : Ended y) : Flush y :=
  Or.inr h

theorem Ended.ne_nil {y : List Char} (h : Ended y) : y ≠ [] := by
  obtain ⟨front, d, rfl, -⟩ := h
  simp

theorem Flush.ended {y : List Char} (h : Flush y) (hne : y ≠ []) : Ended y :=
  h.resolve_left hne

theorem Ended.skipBlanks_append {y : List Char} (h : Ended y) (r : List Char) :
    skipBlanks (y ++ r) = skipBlanks y ++ r := by
  obtain ⟨front, d, rfl, hd⟩ := h
  rw [List.append_assoc, List.singleton_append, skipBlanks_append_cons front hd,
    skipBlanks_append_cons front hd, List.append_assoc, List.singleton_append]

theorem Ended.skipBlanks {y : List Char} (h : Ended y) : Ended (skipBlanks y) := by
  obtain ⟨front, d, rfl, hd⟩ := h
  exact ⟨Query.skipBlanks front, d, skipBlanks_append_cons front hd [], hd⟩

theorem Ended.of_afterBlanks? {y rest : List Char} (h : Ended y)
    (hrest : afterBlanks? y = some rest) : Ended rest :=
  eq_skipBlanks_of_afterBlanks? hrest ▸ h.skipBlanks

theorem Ended.afterBlanks?_append {y : List Char} (h : Ended y) (r : List Char) :
    afterBlanks? (y ++ r) = (afterBlanks? y).map (· ++ r) := by
  obtain ⟨c, y, rfl⟩ := List.exists_cons_of_ne_nil h.ne_nil
  by_cases hc : isBlank c = true
  · rw [List.cons_append, afterBlanks?_of_blank hc, afterBlanks?_of_blank hc, ← List.cons_append,
      h.skipBlanks_append, Option.map_some]
  · rw [List.cons_append, afterBlanks?, afterBlanks?, if_neg hc, if_neg hc, Option.map_none]

def IsAddition (n : Decimal) (r : List Char) : Prop :=
  ∃ w w', IsGap w ∧ IsGap w' ∧ r = w ++ (limitWord ++ (w' ++ n.digits))

namespace IsAddition

variable {n : Decimal} {r : List Char}

theorem head (hr : IsAddition n r) : ∀ c ∈ r.head?, isBlank c = true := by
  obtain ⟨w, w', hw, -, rfl⟩ := hr
  obtain ⟨c, w, rfl⟩ := List.exists_cons_of_ne_nil hw.1
  simpa using List.all_eq_true.1 hw.2 c List.mem_cons_self

theorem isWord_head (hr : IsAddition n r) : ∀ c ∈ r.head?, isWord c = false :=
  fun c hc => isWord_eq_false_of_isBlank (hr.head c hc)

theorem notMem (hr : IsAddition n r) {c : Char} (hblank : isBlank c = false)
    (hlimit : c ∉ limitWord) (hdigit : c.isDigit = false) : c ∉ r := by
  obtain ⟨w, w', hw, hw', rfl⟩ := hr
  simp only [List.mem_append, not_or]
  exact ⟨hw.notMem hblank, hlimit, hw'.notMem hblank, n.notMem hdigit⟩

theorem isDigit_head (hr : IsAddition n r) : ∀ c ∈ r.head?, isDigit c = false :=
  fun c hc => isDigit_eq_false_of_isBlank (hr.head c hc)

theorem afterBlanks? (hr : IsAddition n r) :
    ∃ t, limitWord ++ t <:+ r ∧ Query.afterBlanks? r = some (limitWord ++ t) := by
  obtain ⟨w, w', hw, -, rfl⟩ := hr
  exact ⟨_, List.suffix_append w _, afterBlanks?_append_of_head hw (by simp [limitWord, isBlank])⟩

theorem dropStart? (hr : IsAddition n r) {word : List Char} (hword : word.all isWord = true)
    (y : List Char) : Text.dropStart? word (y ++ r) = (Text.dropStart? word y).map (· ++ r) := by
  by_cases h : word <+: y
  · obtain ⟨t, rfl⟩ := h
    rw [List.append_assoc, dropStart?_append, dropStart?_append, Option.map_some]
  · have hlong : ¬ word <+: y ++ r := fun h' => h (keyword_isPrefix hword hr.isWord_head h')
    rw [dropStart?_eq_none h, dropStart?_eq_none hlong, Option.map_none]

theorem startsWith (hr : IsAddition n r) {word : List Char} (hword : word.all isWord = true)
    (y : List Char) : Query.startsWith word (y ++ r) = Query.startsWith word y := by
  rw [startsWith_eq_isSome, startsWith_eq_isSome, hr.dropStart? hword, Option.isSome_map]

/-- What is looked for past white space is not found past the end of the text, if it is not `limit`,
and before that it is found as if nothing were added. -/
theorem afterBlanks?_bind (hr : IsAddition n r) {β : Type} {look : List Char → Option β}
    {lift : β → β} {y : List Char} (hy : Flush y) (hlimit : ∀ t, look (limitWord ++ t) = none)
    (hlook : ∀ z, Ended z → look (z ++ r) = (look z).map lift) :
    (Query.afterBlanks? (y ++ r)).bind look = ((Query.afterBlanks? y).bind look).map lift := by
  rcases hy with rfl | hy
  · obtain ⟨t, -, ht⟩ := hr.afterBlanks?
    rw [List.nil_append, ht, Option.bind_some, hlimit t]
    rfl
  · rw [hy.afterBlanks?_append]
    cases hafter : Query.afterBlanks? y with
    | none => rfl
    | some z => exact hlook z (hy.of_afterBlanks? hafter)

theorem afterBlanks?_any (hr : IsAddition n r) {test : List Char → Bool} {y : List Char}
    (hy : Flush y) (hlimit : ∀ t, test (limitWord ++ t) = false)
    (htest : ∀ z, Ended z → test (z ++ r) = test z) :
    (Query.afterBlanks? (y ++ r)).any test = (Query.afterBlanks? y).any test := by
  rcases hy with rfl | hy
  · obtain ⟨t, -, ht⟩ := hr.afterBlanks?
    rw [List.nil_append, ht, Option.any_some, hlimit t]
    rfl
  · rw [hy.afterBlanks?_append]
    cases hafter : Query.afterBlanks? y with
    | none => rfl
    | some z => exact htest z (hy.of_afterBlanks? hafter)

theorem fromAhead (hr : IsAddition n r) {y : List Char} (hy : Flush y) :
    fromAhead (y ++ r) = Query.fromAhead y :=
  hr.afterBlanks?_any hy (fun _ => rfl) fun z _ => hr.startsWith (by decide) z

theorem isDescending (hr : IsAddition n r) {y : List Char} (hy : Flush y) :
    isDescending (y ++ r) = Query.isDescending y := by
  have heq : ∀ cs, Query.isDescending cs = (Query.afterBlanks? cs).any fun rest =>
      !Query.startsWith ascWord rest && Query.startsWith descWord rest := by
    intro cs
    rw [Query.isDescending]
    cases Query.afterBlanks? cs <;> rfl
  rw [heq, heq]
  refine hr.afterBlanks?_any hy (fun _ => rfl) fun z _ => ?_
  rw [hr.startsWith (by decide), hr.startsWith (by decide)]

theorem afterOrderBy? (hr : IsAddition n r) {y : List Char} (hy : Flush y) :
    afterOrderBy? (y ++ r) = (Query.afterOrderBy? y).map (· ++ r) := by
  rw [Query.afterOrderBy?, Query.afterOrderBy?, hr.dropStart? (by decide)]
  cases h : Text.dropStart? orderWord y with
  | none => rfl
  | some t =>
    have ht : Flush t := hy.suffix ⟨orderWord, (dropStart?_eq_some_iff.1 h).symm⟩
    exact hr.afterBlanks?_bind ht (fun _ => rfl) fun z _ => hr.dropStart? (by decide) z

theorem takeWord? (hr : IsAddition n r) (y : List Char) :
    takeWord? (y ++ r) = (Query.takeWord? y).map fun (word, rest) => (word, rest ++ r) := by
  rw [Query.takeWord?, Query.takeWord?, takeWhile_append_congr y hr.isWord_head,
    dropWhile_append_congr y hr.isWord_head]
  cases y.takeWhile isWord <;> rfl

/-- The added text holds no bracket, so it ends no cast. -/
theorem castColumn? (hr : IsAddition n r) (y : List Char) :
    castColumn? (y ++ r) =
      (Query.castColumn? y).map fun (column, after) => (column, after ++ r) := by
  cases hcast : Query.castColumn? y with
  | some found =>
    obtain ⟨p, hp, rfl⟩ := castColumn?_eq_some_iff.1 hcast
    rw [List.append_assoc, castColumn?_append hp, Option.map_some]
  | none =>
    rw [Option.map_none, Option.eq_none_iff_forall_ne_some]
    rintro ⟨column, after⟩ hlong
    obtain ⟨p, hp, heq⟩ := castColumn?_eq_some_iff.1 hlong
    obtain ⟨front, hfront⟩ := hp.exists_eq
    have hbracket : ')' ∉ r := hr.notMem (by decide) (by decide) (by decide)
    have hstart : p <+: y := hfront ▸ prefix_of_concat_prefix
      (hfront ▸ heq ▸ List.prefix_append p after) hbracket
    obtain ⟨t, rfl⟩ := hstart
    rw [castColumn?_append hp] at hcast
    cases hcast

theorem conditionEnds (hr : IsAddition n r) {y : List Char} (hy : Ended y) :
    conditionEnds (y ++ r) = Query.conditionEnds y := by
  rw [Query.conditionEnds, Query.conditionEnds, List.isEmpty_eq_false_iff.2 hy.ne_nil,
    List.isEmpty_eq_false_iff.2 (List.append_ne_nil_of_left_ne_nil hy.ne_nil r),
    hy.afterBlanks?_append]
  cases hafter : Query.afterBlanks? y with
  | none => rfl
  | some z =>
    have hz : Flush z := (hy.of_afterBlanks? hafter).flush
    simp only [Option.map_some, Option.any_some, hr.afterOrderBy? hz, Option.isSome_map,
      hr.startsWith clauseSearch_limit.all_isWord]

theorem upTo?_conditionEnds (hr : IsAddition n r) {y : List Char} (hy : Flush y) :
    upTo? Query.conditionEnds (y ++ r) = upTo? Query.conditionEnds y := by
  have hends : Query.conditionEnds r = true := by
    obtain ⟨w, w', hw, -, rfl⟩ := hr
    have hne : w ++ (limitWord ++ (w' ++ n.digits)) ≠ [] :=
      List.append_ne_nil_of_left_ne_nil hw.1 _
    refine (conditionEnds_iff hne).2 ⟨w ++ limitWord, ⟨w, limitWord, hw, Or.inl rfl, rfl⟩, ?_⟩
    exact ⟨w' ++ n.digits, List.append_assoc w limitWord _⟩
  refine upTo?_append_congr (fun z hne hz => hr.conditionEnds ((hy.suffix hz).ended hne)) ?_
  rw [upTo?_of_stop hends, upTo?_of_stop rfl]

theorem fromAhead_suffix (hr : IsAddition n r) {z : List Char} (hz : z <:+ r) :
    Query.fromAhead z = false := by
  rw [Query.fromAhead]
  cases hafter : Query.afterBlanks? z with
  | none => rfl
  | some rest =>
    obtain ⟨w, -, rfl, -⟩ := afterBlanks?_eq_some_iff.1 hafter
    apply startsWith_eq_false
    intro hfrom
    have hmem : 'f' ∈ r := hz.subset (List.mem_append_right w (hfrom.subset (by decide)))
    exact hr.notMem (by decide) (by decide) (by decide) hmem

theorem upTo?_fromAhead (hr : IsAddition n r) {y : List Char} (hy : Flush y) :
    upTo? Query.fromAhead (y ++ r) = upTo? Query.fromAhead y := by
  refine upTo?_append_congr (fun z _ hz => hr.fromAhead (hy.suffix hz)) ?_
  rw [upTo?_eq_none fun z hz => hr.fromAhead_suffix hz]
  rfl

theorem selectedHere (hr : IsAddition n r) {y : List Char} (hy : Flush y) :
    selectedHere (y ++ r) = Query.selectedHere y := by
  rw [Query.selectedHere, Query.selectedHere, hr.dropStart? (by decide)]
  cases h : Text.dropStart? selectWord y with
  | none => rfl
  | some t =>
    rcases hy.suffix ⟨selectWord, (dropStart?_eq_some_iff.1 h).symm⟩ with rfl | ht
    -- The keyword stands at the end of the text, and no `from` comes after it.
    · obtain ⟨u, hsuffix, hu⟩ := hr.afterBlanks?
      have hskip : skipBlanks r = limitWord ++ u := (eq_skipBlanks_of_afterBlanks? hu).symm
      have hnone : upTo? Query.fromAhead (limitWord ++ u) = none :=
        upTo?_eq_none fun z hz => hr.fromAhead_suffix (hz.trans hsuffix)
      have hfrom : Query.startsWith fromWord (limitWord ++ u) = false := rfl
      simp only [Option.map_some, List.nil_append, hskip, hnone, hfrom, Bool.and_false]
      simp [Query.skipBlanks]
    · have hfrom : fromWord.all isWord = true := by decide
      simp only [Option.map_some, ht.skipBlanks_append, List.length_append, Nat.add_sub_add_right,
        hr.upTo?_fromAhead ht.skipBlanks.flush, hr.startsWith hfrom]

/-- A condition may start before the end of the text, but for a `where` at the very end. -/
theorem conditionHere (hr : IsAddition n r) {y : List Char} (hy : Flush y) (hne : y ≠ whereWord) :
    conditionHere (y ++ r) = Query.conditionHere y := by
  rw [Query.conditionHere, Query.conditionHere, hr.dropStart? (by decide)]
  cases h : Text.dropStart? whereWord y with
  | none => rfl
  | some t =>
    obtain rfl := dropStart?_eq_some_iff.1 h
    have ht : Ended t := by
      refine (hy.suffix (List.suffix_append whereWord t)).ended fun hnil => hne ?_
      rw [hnil, List.append_nil]
    rw [Option.map_some, Option.bind_some, Option.bind_some, ht.afterBlanks?_append]
    cases hafter : Query.afterBlanks? t with
    | none => rfl
    | some rest =>
      have hrest := ht.of_afterBlanks? hafter
      obtain ⟨c, z, rfl⟩ := List.exists_cons_of_ne_nil hrest.ne_nil
      have hz : Flush z := hrest.flush.suffix (List.suffix_cons c z)
      rw [Option.map_some, List.cons_append]
      simp only [hr.upTo?_conditionEnds hz]

theorem orderingHere (hr : IsAddition n r) {y : List Char} (hy : Flush y) (hno : ¬ IsOrderBy y) :
    orderingHere (y ++ r) = Query.orderingHere y := by
  rw [Query.orderingHere, Query.orderingHere, hr.afterOrderBy? hy]
  cases h : Query.afterOrderBy? y with
  | none => rfl
  | some t =>
    obtain ⟨k, hk, rfl⟩ := afterOrderBy?_eq_some_iff.1 h
    have ht : Ended t := by
      refine (hy.suffix (List.suffix_append k t)).ended fun hnil => hno ?_
      rwa [hnil, List.append_nil]
    rw [Option.map_some, Option.bind_some, Option.bind_some, ht.afterBlanks?_append]
    cases hafter : Query.afterBlanks? t with
    | none => rfl
    | some rest =>
      have hrest : Flush rest := (ht.of_afterBlanks? hafter).flush
      simp only [Option.map_some, hr.castColumn?, hr.takeWord?]
      cases hcast : Query.castColumn? rest with
      | some found =>
        obtain ⟨p, -, rfl⟩ := castColumn?_eq_some_iff.1 hcast
        simp only [Option.map_some, Option.some_or,
          hr.isDescending (hrest.suffix (List.suffix_append p found.2))]
      | none =>
        cases hword : Query.takeWord? rest with
        | none => rfl
        | some found =>
          obtain ⟨-, -, -, rfl⟩ := takeWord?_eq_some_iff.1 hword
          simp only [Option.map_some, Option.map_none, Option.none_or,
            hr.isDescending (hrest.suffix (List.suffix_append found.1 found.2))]

theorem limitHere (hr : IsAddition n r) {y : List Char} (hy : Flush y) :
    limitHere (y ++ r) = Query.limitHere y := by
  rw [Query.limitHere, Query.limitHere, hr.dropStart? (by decide)]
  cases h : Text.dropStart? limitWord y with
  | none => rfl
  | some t =>
    rw [Option.map_some, Option.bind_some, Option.bind_some]
    rcases hy.suffix ⟨limitWord, (dropStart?_eq_some_iff.1 h).symm⟩ with rfl | ht
    · obtain ⟨u, -, hu⟩ := hr.afterBlanks?
      rw [List.nil_append, hu]
      rfl
    · rw [ht.afterBlanks?_append]
      cases Query.afterBlanks? t with
      | none => rfl
      | some z => simp only [Option.map_some, takeWhile_append_congr z hr.isDigit_head]

/-- A `where` at the end of the text gets the limit for a condition. -/
theorem conditionHere_where (hr : IsAddition n r) :
    ∃ clause, clause <:+ r ∧ Query.conditionHere (whereWord ++ r) = some clause := by
  obtain ⟨w, w', hw, hw', rfl⟩ := hr
  let rest := ['i', 'm', 'i', 't'] ++ (w' ++ n.digits)
  have hnotMem : ∀ c ∈ ['l', 'o'], c ∉ rest := by
    simp only [List.forall_mem_cons, rest, List.mem_append, not_or]
    refine ⟨⟨by decide, hw'.notMem (by decide), n.notMem (by decide)⟩,
      ⟨by decide, hw'.notMem (by decide), n.notMem (by decide)⟩, by simp⟩
  have hends : ¬ Occurs IsEnding rest := by
    rintro ⟨_, ⟨w₀, k, _, hk, rfl⟩, hinfix⟩
    have hkeyword : ∀ c ∈ k, c ∈ rest := fun c hc => hinfix.subset (List.mem_append_right w₀ hc)
    rcases hk with rfl | ⟨w₁, _, rfl⟩
    · exact hnotMem 'l' (by decide) (hkeyword 'l' (by decide))
    · exact hnotMem 'o' (by decide) (hkeyword 'o' (List.mem_append_left _ (by decide)))
  refine ⟨'l' :: rest, List.suffix_append w _, ?_⟩
  rw [Query.conditionHere, dropStart?_append, Option.bind_some,
    afterBlanks?_append_of_head hw (by simp [limitWord, isBlank])]
  simp only [limitWord, List.cons_append, List.nil_append]
  exact congrArg (Option.map ('l' :: ·)) (upTo?_conditionEnds_eq_self_iff.2 hends)

theorem selected (hr : IsAddition n r) {y : List Char} (hy : Flush y) :
    selected (y ++ r) = Query.selected y := by
  refine findFirst_append_congr (fun z _ hz => hr.selectedHere (hy.suffix hz)) ?_
  refine findFirst_eq_none_iff.2 fun z hz => ?_
  have hselect : ¬ selectWord <+: z := fun h =>
    hr.notMem (c := 's') (by decide) (by decide) (by decide) (hz.subset (h.subset (by decide)))
  rw [Query.selectedHere, dropStart?_eq_none hselect]

theorem condition (hr : IsAddition n r) {y : List Char} (hy : Flush y) :
    condition (y ++ r) = Query.condition y ∨ (Query.condition y = none ∧
      ∃ clause, clause <:+ r ∧ Query.condition (y ++ r) = some clause) := by
  have hwhere : ¬ whereWord <:+: r := fun h =>
    hr.notMem (c := 'w') (by decide) (by decide) (by decide) (h.subset (by decide))
  by_cases hend : whereWord <:+ y
  · obtain ⟨front, rfl⟩ := hend
    have hlook : ∀ z, z ≠ [] → z <:+ front →
        Query.conditionHere (z ++ (whereWord ++ r)) = Query.conditionHere (z ++ whereWord) := by
      rintro z hne ⟨t, rfl⟩
      have hflush : Flush (z ++ whereWord) := hy.suffix ⟨t, (List.append_assoc t z _).symm⟩
      rw [← List.append_assoc]
      exact hr.conditionHere hflush (by simpa using hne)
    obtain ⟨o, hlong, hshort⟩ := findFirst_append_or hlook
    obtain ⟨clause, hclause, hfound⟩ := hr.conditionHere_where
    have hnone : findFirst Query.conditionHere whereWord = none := by decide
    rw [findFirst_of_some hfound, ← List.append_assoc] at hlong
    rw [hnone, Option.or_none] at hshort
    cases o with
    | some c => exact Or.inl (hlong.trans hshort.symm)
    | none => exact Or.inr ⟨hshort, clause, hclause, hlong⟩
  · refine Or.inl (findFirst_append_congr (fun z _ hz => ?_)
      (clauseSearch_condition.findFirst_eq_none hwhere))
    exact hr.conditionHere (hy.suffix hz) fun h => hend (h ▸ hz)

theorem ordering (hr : IsAddition n r) {y : List Char} (hy : Flush y)
    (hno : ¬ ∃ p, IsOrderBy p ∧ p <:+ y) : ordering (y ++ r) = Query.ordering y := by
  refine findFirst_append_congr
    (fun z _ hz => hr.orderingHere (hy.suffix hz) fun horder => hno ⟨z, horder, hz⟩) ?_
  apply clauseSearch_ordering.findFirst_eq_none
  intro hword
  exact hr.notMem (c := 'o') (by decide) (by decide) (by decide) (hword.subset (by decide))

theorem limitDigits (hr : IsAddition n r) {y : List Char} (hy : Flush y)
    (hno : ¬ Occurs IsLimit y) : limitDigits (y ++ r) = some n.digits := by
  have hnone := findFirst_eq_none_iff.1 (limitDigits_eq_none_iff.2 hno)
  have hpass : Query.limitDigits (y ++ r) = findFirst Query.limitHere r := by
    refine findFirst_append fun z _ hz => ?_
    rw [hr.limitHere (hy.suffix hz), hnone z hz]
  rw [hpass]
  obtain ⟨w, w', hw, hw', rfl⟩ := hr
  rw [clauseSearch_limit.pass_other fun c hc =>
    isWord_eq_false_of_isBlank (List.all_eq_true.1 hw.2 c hc)]
  exact findFirst_of_some (limitHere_digits n hw')

end IsAddition

end TableTalk.Query

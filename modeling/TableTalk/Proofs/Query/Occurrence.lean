import TableTalk.Proofs.Query.Keyword

/-!
# What stands in a query text

The forms that the searches of a query text look for, told without a search: the beginnings of a
limit and of an ordering, and what ends a condition. A search finds something exactly if a text of
its form stands in the query text, whatever is around it.
-/

namespace TableTalk.Query

open Text

def IsGap (w : List Char) : Prop :=
  w ≠ [] ∧ allBlank w = true

instance (w : List Char) : Decidable (IsGap w) :=
  inferInstanceAs (Decidable (_ ∧ _))

def IsLimit (p : List Char) : Prop :=
  ∃ w d, IsGap w ∧ isDigit d = true ∧ p = limitWord ++ (w ++ [d])

def IsOrderBy (p : List Char) : Prop :=
  ∃ w, IsGap w ∧ p = orderWord ++ (w ++ byWord)

def IsOrdering (p : List Char) : Prop :=
  ∃ k w d, IsOrderBy k ∧ IsGap w ∧ isWord d = true ∧ p = k ++ (w ++ [d])

/-- What ends a condition: white space and the keyword of a clause that may follow it. -/
def IsEnding (p : List Char) : Prop :=
  ∃ w k, IsGap w ∧ (k = limitWord ∨ IsOrderBy k) ∧ p = w ++ k

def Occurs (form : List Char → Prop) (cs : List Char) : Prop :=
  ∃ p, form p ∧ p <:+: cs

theorem occurs_iff {form : List Char → Prop} {cs : List Char} :
    Occurs form cs ↔ ∃ y, y <:+ cs ∧ ∃ p, form p ∧ p <+: y := by
  constructor
  · rintro ⟨p, hp, hinfix⟩
    obtain ⟨y, hprefix, hsuffix⟩ := List.infix_iff_prefix_suffix.1 hinfix
    exact ⟨y, hsuffix, p, hp, hprefix⟩
  · rintro ⟨y, hsuffix, p, hp, hprefix⟩
    exact ⟨p, hp, List.infix_iff_prefix_suffix.2 ⟨y, hprefix, hsuffix⟩⟩

/-- A character that stands in no text of the form adds none at the end. -/
theorem occurs_append_singleton_iff {form : List Char → Prop} {q : Char}
    (hq : ∀ p, form p → p ≠ [] ∧ q ∉ p) (cs : List Char) :
    Occurs form (cs ++ [q]) ↔ Occurs form cs := by
  constructor
  · rintro ⟨p, hp, s, t, heq⟩
    obtain ⟨hne, hnot⟩ := hq p hp
    rcases List.eq_nil_or_concat t with rfl | ⟨t, d, rfl⟩
    · rw [List.append_nil, ← List.dropLast_concat_getLast hne, ← List.append_assoc] at heq
      have hlast : p.getLast hne = q := List.singleton_inj.1 (List.append_inj' heq rfl).2
      exact absurd (hlast ▸ List.getLast_mem hne) hnot
    · rw [List.concat_eq_append, ← List.append_assoc] at heq
      exact ⟨p, hp, s, t, (List.append_inj' heq rfl).1⟩
  · rintro ⟨p, hp, hinfix⟩
    exact ⟨p, hp, hinfix.trans (List.prefix_append cs [q]).isInfix⟩

theorem IsGap.notMem {w : List Char} (hw : IsGap w) {c : Char} (hc : isBlank c = false) :
    c ∉ w := by
  intro hmem
  rw [List.all_eq_true.1 hw.2 c hmem] at hc
  exact absurd hc (by decide)

theorem isBlank_eq_false_of_isWord {c : Char} (h : isWord c = true) : isBlank c = false := by
  by_contra hblank
  rw [Bool.not_eq_false] at hblank
  rw [isWord_eq_false_of_isBlank hblank] at h
  exact absurd h (by decide)

theorem isBlank_eq_false_of_isDigit {c : Char} (h : isDigit c = true) : isBlank c = false := by
  by_contra hblank
  rw [Bool.not_eq_false] at hblank
  rw [isDigit_eq_false_of_isBlank hblank] at h
  exact absurd h (by decide)

theorem skipBlanks_append_of_head {w rest : List Char} (hw : allBlank w = true)
    (hrest : ∀ c ∈ rest.head?, isBlank c = false) : skipBlanks (w ++ rest) = rest :=
  dropWhile_append_of_head (List.all_eq_true.1 hw) hrest

theorem afterBlanks?_append_of_head {w rest : List Char} (hw : IsGap w)
    (hrest : ∀ c ∈ rest.head?, isBlank c = false) : afterBlanks? (w ++ rest) = some rest := by
  rw [afterBlanks?_append hw.1 hw.2, skipBlanks_of_head hrest]

/-- The white space at the front of a text and what follows it. -/
theorem exists_skipBlanks (cs : List Char) :
    ∃ w, allBlank w = true ∧ cs = w ++ skipBlanks cs ∧
      ∀ c ∈ (skipBlanks cs).head?, isBlank c = false := by
  refine ⟨cs.takeWhile isBlank, ?_, List.takeWhile_append_dropWhile.symm,
    head?_dropWhile_eq_false isBlank cs⟩
  exact List.all_takeWhile

theorem afterBlanks?_eq_some_iff {cs rest : List Char} :
    afterBlanks? cs = some rest ↔
      ∃ w, IsGap w ∧ cs = w ++ rest ∧ ∀ c ∈ rest.head?, isBlank c = false := by
  constructor
  · intro h
    obtain rfl := eq_skipBlanks_of_afterBlanks? h
    obtain ⟨w, hw, heq, hhead⟩ := exists_skipBlanks cs
    refine ⟨w, ⟨?_, hw⟩, heq, hhead⟩
    rintro rfl
    rw [List.nil_append] at heq
    rw [afterBlanks?_of_head (heq ▸ hhead)] at h
    cases h
  · rintro ⟨w, hw, rfl, hhead⟩
    exact afterBlanks?_append_of_head hw hhead

theorem afterKeyword?_eq_some_iff {word cs rest : List Char} :
    afterKeyword? word cs = some rest ↔
      ∃ w, IsGap w ∧ cs = word ++ (w ++ rest) ∧ ∀ c ∈ rest.head?, isBlank c = false := by
  rw [afterKeyword?, Option.bind_eq_some_iff]
  constructor
  · rintro ⟨t, hword, hblanks⟩
    obtain ⟨w, hw, rfl, hhead⟩ := afterBlanks?_eq_some_iff.1 hblanks
    exact ⟨w, hw, dropStart?_eq_some_iff.1 hword, hhead⟩
  · rintro ⟨w, hw, rfl, hhead⟩
    exact ⟨w ++ rest, dropStart?_append word _, afterBlanks?_append_of_head hw hhead⟩

theorem afterOrderBy?_eq_some_iff {cs rest : List Char} :
    afterOrderBy? cs = some rest ↔ ∃ k, IsOrderBy k ∧ cs = k ++ rest := by
  rw [afterOrderBy?_eq, Option.bind_eq_some_iff]
  constructor
  · rintro ⟨t, hafter, hby⟩
    obtain ⟨w, hw, rfl, -⟩ := afterKeyword?_eq_some_iff.1 hafter
    rw [dropStart?_eq_some_iff.1 hby]
    exact ⟨orderWord ++ (w ++ byWord), ⟨w, hw, rfl⟩, by simp⟩
  · rintro ⟨_, ⟨w, hw, rfl⟩, rfl⟩
    refine ⟨byWord ++ rest, afterKeyword?_eq_some_iff.2 ⟨w, hw, by simp, ?_⟩,
      dropStart?_append byWord rest⟩
    simp [byWord, isBlank]

theorem takeWord?_eq_some_iff {cs word rest : List Char} :
    takeWord? cs = some (word, rest) ↔ word ≠ [] ∧ (∀ c ∈ word, isWord c = true) ∧
      (∀ c ∈ rest.head?, isWord c = false) ∧ cs = word ++ rest := by
  constructor
  · intro h
    unfold takeWord? at h
    split at h
    · cases h
    · next hne =>
      obtain ⟨rfl, rfl⟩ := Prod.mk.inj (Option.some.inj h)
      exact ⟨hne, List.all_eq_true.1 List.all_takeWhile, head?_dropWhile_eq_false isWord cs,
        List.takeWhile_append_dropWhile.symm⟩
  · rintro ⟨hne, hword, hrest, rfl⟩
    obtain ⟨c, y, rfl⟩ := List.exists_cons_of_ne_nil hne
    rw [takeWord?, takeWhile_append_of_head hword hrest, dropWhile_append_of_head hword hrest]

theorem takeWord?_isSome_iff {cs : List Char} :
    (takeWord? cs).isSome = true ↔ ∃ d rest, cs = d :: rest ∧ isWord d = true := by
  cases cs with
  | nil => simp [takeWord?]
  | cons d rest => cases hd : isWord d <;> simp [takeWord?, hd]

/-- A limit stands at the front of the text, written with the digits `ds`, after which no digit
stands. -/
structure IsLimitAt (ds cs : List Char) : Prop where
  ne_nil : ds ≠ []
  isDigit : ∀ d ∈ ds, isDigit d = true
  written : ∃ w rest, IsGap w ∧ (∀ d ∈ rest.head?, Text.isDigit d = false) ∧
    cs = limitWord ++ (w ++ (ds ++ rest))

theorem limitHere_eq_some_iff {ds cs : List Char} : limitHere cs = some ds ↔ IsLimitAt ds cs := by
  constructor
  · intro h
    unfold limitHere at h
    rw [← afterKeyword?] at h
    split at h
    · cases h
    · next rest hafter =>
      obtain ⟨w, hw, rfl, -⟩ := afterKeyword?_eq_some_iff.1 hafter
      split at h
      · cases h
      · next hne =>
        obtain rfl := Option.some.inj h
        refine ⟨hne, List.all_eq_true.1 List.all_takeWhile, w, rest.dropWhile Text.isDigit, hw,
          head?_dropWhile_eq_false _ rest, ?_⟩
        rw [List.takeWhile_append_dropWhile]
  · rintro ⟨hne, hdigit, w, rest, hw, hrest, rfl⟩
    obtain ⟨d, ds, rfl⟩ := List.exists_cons_of_ne_nil hne
    have hafter : afterKeyword? limitWord (limitWord ++ (w ++ (d :: ds ++ rest))) =
        some (d :: ds ++ rest) :=
      afterKeyword?_eq_some_iff.2
        ⟨w, hw, rfl, by simpa using isBlank_eq_false_of_isDigit (hdigit d List.mem_cons_self)⟩
    rw [limitHere, ← afterKeyword?, hafter]
    simp only [takeWhile_append_of_head hdigit hrest]

def IsFirstLimit (ds cs : List Char) : Prop :=
  ∃ rest, rest <:+ cs ∧ IsLimitAt ds rest ∧
    ∀ y ds', y <:+ cs → rest.length < y.length → ¬ IsLimitAt ds' y

theorem limitDigits_eq_some_iff {ds cs : List Char} :
    limitDigits cs = some ds ↔ IsFirstLimit ds cs := by
  have hnone : ∀ y, limitHere y = none ↔ ∀ ds', ¬ IsLimitAt ds' y := by
    intro y
    rw [Option.eq_none_iff_forall_ne_some]
    exact forall_congr' fun ds' => not_congr limitHere_eq_some_iff
  rw [limitDigits, findFirst_eq_some_iff, IsFirstLimit]
  simp only [limitHere_eq_some_iff, hnone]
  exact exists_congr fun rest => and_congr_right fun _ => and_congr_right fun _ =>
    ⟨fun h y ds' hy hlt => h y hy hlt ds', fun h y hy hlt ds' => h y ds' hy hlt⟩

theorem IsLimitAt.exists_isLimit {ds cs : List Char} (h : IsLimitAt ds cs) :
    ∃ p, IsLimit p ∧ p <+: cs := by
  obtain ⟨hne, hdigit, w, rest, hw, -, rfl⟩ := h
  obtain ⟨d, ds, rfl⟩ := List.exists_cons_of_ne_nil hne
  refine ⟨_, ⟨w, d, hw, hdigit d List.mem_cons_self, rfl⟩, ds ++ rest, by simp⟩

theorem exists_isLimitAt {p cs : List Char} (hp : IsLimit p) ( hprefix : p <+: cs) :
    ∃ ds, IsLimitAt ds cs := by
  obtain ⟨w, d, hw, hd, rfl⟩ := hp
  obtain ⟨t, rfl⟩ := hprefix
  refine ⟨d :: t.takeWhile isDigit, by simp, ?_, w, t.dropWhile isDigit, hw,
    head?_dropWhile_eq_false _ t, by simp [List.takeWhile_append_dropWhile]⟩
  intro e he
  rcases List.mem_cons.1 he with rfl | he
  · exact hd
  · exact List.all_eq_true.1 List.all_takeWhile e he

/-- No limit is found exactly if none stands in the text. -/
theorem limitDigits_eq_none_iff {cs : List Char} :
    limitDigits cs = none ↔ ¬ Occurs IsLimit cs := by
  rw [limitDigits, findFirst_eq_none_iff, occurs_iff]
  constructor
  · rintro h ⟨y, hy, p, hp, hprefix⟩
    obtain ⟨ds, hds⟩ := exists_isLimitAt hp hprefix
    rw [← limitHere_eq_some_iff, h y hy] at hds
    cases hds
  · intro h y hy
    rw [Option.eq_none_iff_forall_ne_some]
    intro ds hds
    obtain ⟨p, hp, hprefix⟩ := (limitHere_eq_some_iff.1 hds).exists_isLimit
    exact h ⟨y, hy, p, hp, hprefix⟩

theorem castColumn?_eq_none {d : Char} {rest : List Char} (hd : isWord d = false) :
    castColumn? (d :: rest) = none := by
  have hprefix : ¬ castWord <+: d :: rest := by
    intro h
    rw [← (List.cons_prefix_cons.1 h).1] at hd
    exact absurd hd (by decide)
  rw [castColumn?, dropStart?_eq_none hprefix]
  rfl

theorem orderingHere_isSome_iff {cs : List Char} :
    (orderingHere cs).isSome = true ↔ ∃ p, IsOrdering p ∧ p <+: cs := by
  have hcolumn : ∀ rest : List Char, ((castColumn? rest).or (takeWord? rest)).isSome = true ↔
      ∃ d t, rest = d :: t ∧ isWord d = true := by
    intro rest
    rw [← takeWord?_isSome_iff]
    cases rest with
    | nil => rfl
    | cons d t =>
      cases hd : isWord d with
      | false => rw [castColumn?_eq_none hd, Option.none_or]
      | true =>
        have hword := takeWord?_isSome_iff.2 ⟨d, t, rfl, hd⟩
        simp only [Option.isSome_or, hword, Bool.or_true]
  constructor
  · intro h
    unfold orderingHere at h
    split at h
    · cases h
    · next rest hafter =>
      obtain ⟨t, horder, hblanks⟩ := Option.bind_eq_some_iff.1 hafter
      obtain ⟨k, hk, rfl⟩ := afterOrderBy?_eq_some_iff.1 horder
      obtain ⟨w, hw, rfl, -⟩ := afterBlanks?_eq_some_iff.1 hblanks
      rw [Option.isSome_map] at h
      obtain ⟨d, t, rfl, hd⟩ := (hcolumn rest).1 h
      exact ⟨k ++ (w ++ [d]), ⟨k, w, d, hk, hw, hd, rfl⟩, t, by simp⟩
  · rintro ⟨_, ⟨k, w, d, hk, hw, hd, rfl⟩, t, rfl⟩
    have hafter : (afterOrderBy? ((k ++ (w ++ [d])) ++ t)).bind afterBlanks? = some (d :: t) := by
      rw [Option.bind_eq_some_iff]
      refine ⟨w ++ d :: t, afterOrderBy?_eq_some_iff.2 ⟨k, hk, by simp⟩, ?_⟩
      exact afterBlanks?_append_of_head hw (by simpa using isBlank_eq_false_of_isWord hd)
    rw [orderingHere, hafter]
    simp only [Option.isSome_map]
    exact (hcolumn (d :: t)).2 ⟨d, t, rfl, hd⟩

/-- No ordering is found exactly if none stands in the text. -/
theorem ordering_eq_none_iff {cs : List Char} :
    ordering cs = none ↔ ¬ Occurs IsOrdering cs := by
  rw [ordering, findFirst_eq_none_iff, occurs_iff]
  simp only [← orderingHere_isSome_iff, Option.isSome_iff_ne_none, not_exists, not_and, not_not]

theorem conditionEnds_iff {cs : List Char} (hne : cs ≠ []) :
    conditionEnds cs = true ↔ ∃ p, IsEnding p ∧ p <+: cs := by
  have hempty : cs.isEmpty = false := List.isEmpty_eq_false_iff.2 hne
  rw [conditionEnds, hempty, Bool.false_or, Option.any_eq_true]
  constructor
  · rintro ⟨rest, hblanks, h⟩
    obtain ⟨w, hw, rfl, -⟩ := afterBlanks?_eq_some_iff.1 hblanks
    rcases Bool.or_eq_true_iff.1 h with horder | hlimit
    · obtain ⟨t, ht⟩ := Option.isSome_iff_exists.1 horder
      obtain ⟨k, hk, rfl⟩ := afterOrderBy?_eq_some_iff.1 ht
      exact ⟨w ++ k, ⟨w, k, hw, Or.inr hk, rfl⟩, t, by simp⟩
    · obtain ⟨t, rfl⟩ := List.isPrefixOf_iff_prefix.1 hlimit
      exact ⟨w ++ limitWord, ⟨w, limitWord, hw, Or.inl rfl, rfl⟩, t, by simp⟩
  · rintro ⟨_, ⟨w, k, hw, hk, rfl⟩, t, rfl⟩
    have hhead : ∀ c ∈ (k ++ t).head?, isBlank c = false := by
      rcases hk with rfl | ⟨w', -, rfl⟩
      · simp [limitWord, isBlank]
      · simp [orderWord, isBlank]
    refine ⟨k ++ t, ?_, ?_⟩
    · rw [List.append_assoc]
      exact afterBlanks?_append_of_head hw hhead
    · rcases hk with rfl | hk
      · rw [startsWith_append, Bool.or_true]
      · rw [afterOrderBy?_eq_some_iff.2 ⟨k, hk, rfl⟩]
        rfl

/-- A condition reaches to the end of a text exactly if nothing in it ends a condition. -/
theorem upTo?_conditionEnds_eq_self_iff {cs : List Char} :
    upTo? conditionEnds cs = some cs ↔ ¬ Occurs IsEnding cs := by
  rw [upTo?_eq_self_iff, occurs_iff]
  constructor
  · rintro ⟨-, h⟩ ⟨y, hy, p, hp, hprefix⟩
    have hne : y ≠ [] := by
      rintro rfl
      obtain ⟨w, k, hw, -, rfl⟩ := hp
      exact hw.1 (List.append_eq_nil_iff.1 (List.prefix_nil.1 hprefix)).1
    have hends := (conditionEnds_iff hne).2 ⟨p, hp, hprefix⟩
    rw [h y hne hy] at hends
    exact absurd hends (by decide)
  · intro h
    refine ⟨rfl, fun y hne hy => ?_⟩
    rw [Bool.eq_false_iff]
    intro hends
    obtain ⟨p, hp, hprefix⟩ := (conditionEnds_iff hne).1 hends
    exact h ⟨y, hy, p, hp, hprefix⟩

end TableTalk.Query

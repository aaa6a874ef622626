import TableTalk.Proofs.Text.Ascii
import TableTalk.Proofs.Text.Search
import TableTalk.Query.Clauses

/-!
# Keywords in a query text

The searches for a condition, an ordering and a limit ask for a keyword, white space and a
character that can start what comes then. Nothing bounds a keyword on its left, so a word that ends
in one may start a clause. The lemmas say when a search passes over a word, over other characters
and over a quoted value, whatever follows.
-/

namespace TableTalk.Query

open Text

theorem afterBlanks?_of_head {cs : List Char} (h : ∀ c ∈ cs.head?, isBlank c = false) :
    afterBlanks? cs = none := by
  cases cs with
  | nil => rfl
  | cons c rest =>
    have hc : isBlank c = false := h c (by simp)
    simp [afterBlanks?, hc]

theorem skipBlanks_of_head {cs : List Char} (h : ∀ c ∈ cs.head?, isBlank c = false) :
    skipBlanks cs = cs :=
  trimLeft_eq_self h

theorem skipBlanks_append {w : List Char} (hw : allBlank w = true) (cs : List Char) :
    skipBlanks (w ++ cs) = skipBlanks cs :=
  trimLeft_append hw cs

theorem afterBlanks?_append {w : List Char} (hne : w ≠ []) (hw : allBlank w = true)
    (cs : List Char) : afterBlanks? (w ++ cs) = some (skipBlanks cs) := by
  cases w with
  | nil => exact absurd rfl hne
  | cons c w =>
    simp only [allBlank, List.all_cons, Bool.and_eq_true] at hw
    rw [List.cons_append, afterBlanks?, if_pos hw.1, skipBlanks_append (by exact hw.2)]

theorem afterBlanks?_of_blank {c : Char} (hc : isBlank c = true) (cs : List Char) :
    afterBlanks? (c :: cs) = some (skipBlanks (c :: cs)) := by
  rw [afterBlanks?, if_pos hc, skipBlanks, skipBlanks, List.dropWhile_cons_of_pos hc]

theorem eq_skipBlanks_of_afterBlanks? {cs rest : List Char} (h : afterBlanks? cs = some rest) :
    rest = skipBlanks cs := by
  cases cs with
  | nil => cases h
  | cons c cs =>
    by_cases hc : isBlank c = true
    · rw [afterBlanks?_of_blank hc] at h
      exact (Option.some.inj h).symm
    · rw [afterBlanks?, if_neg hc] at h
      cases h

theorem startsWith_append (start rest : List Char) : startsWith start (start ++ rest) = true :=
  List.isPrefixOf_iff_prefix.2 (List.prefix_append start rest)

theorem startsWith_eq_isSome (start cs : List Char) :
    startsWith start cs = (dropStart? start cs).isSome := by
  rw [startsWith, dropStart?]
  cases start.isPrefixOf cs <;> rfl

theorem startsWith_eq_false {start cs : List Char} (h : ¬ start <+: cs) :
    startsWith start cs = false :=
  Bool.eq_false_iff.2 fun hs => h (List.isPrefixOf_iff_prefix.1 hs)

def afterKeyword? (word cs : List Char) : Option (List Char) :=
  (dropStart? word cs).bind afterBlanks?

/-- A keyword at the front of a text is part of the word there. -/
theorem keyword_isPrefix {word y rest : List Char} (hword : word.all isWord = true)
    (hrest : ∀ c ∈ rest.head?, isWord c = false) (h : word <+: y ++ rest) : word <+: y := by
  apply prefix_of_prefix_append h
  intro c hc hmem
  have hc' := List.all_eq_true.1 hword c hmem
  rw [hrest c hc] at hc'
  exact absurd hc' (by decide)

theorem afterKeyword?_append (word : List Char) {w : List Char} (hne : w ≠ [])
    (hw : allBlank w = true) (cs : List Char) :
    afterKeyword? word (word ++ (w ++ cs)) = some (skipBlanks cs) := by
  rw [afterKeyword?, dropStart?_append, Option.bind_some, afterBlanks?_append hne hw]

theorem afterKeyword?_eq_none {word cs : List Char} (h : ¬ word <+: cs) :
    afterKeyword? word cs = none := by
  rw [afterKeyword?, dropStart?_eq_none h, Option.bind_none]

/-- A keyword that starts a word but is not all of it has no white space after it. -/
theorem afterKeyword?_of_ne {word y rest : List Char} (hword : word.all isWord = true)
    (hy : ∀ c ∈ y, isWordAscii c = true) (hrest : ∀ c ∈ rest.head?, isWord c = false)
    (hne : y ≠ word) : afterKeyword? word (y ++ rest) = none := by
  by_cases hprefix : word <+: y ++ rest
  · obtain ⟨z, rfl⟩ := keyword_isPrefix hword hrest hprefix
    cases z with
    | nil => exact absurd (List.append_nil word) hne
    | cons c z =>
      have hc : isBlank c = false := isBlank_of_isWordAscii (hy c (by simp))
      rw [afterKeyword?, List.append_assoc, dropStart?_append, Option.bind_some]
      exact afterBlanks?_of_head (by simpa using hc)
  · exact afterKeyword?_eq_none hprefix

/-- A way of looking for a clause: it finds nothing unless the keyword stands there, with white
space after it and then a character that can start the clause. -/
structure ClauseSearch {α : Type} (word : List Char) (starts : Char → Bool)
    (look : List Char → Option α) : Prop where
  word_mem : word ∈ [whereWord, orderWord, limitWord]
  starts_of_ne : word ≠ whereWord → ∀ c, starts c = true → c = 'b' ∨ isDigit c = true
  found : ∀ cs a, look cs = some a → ∃ c rest, afterKeyword? word cs = some (c :: rest) ∧
    starts c = true

namespace ClauseSearch

variable {α : Type} {word : List Char} {starts : Char → Bool} {look : List Char → Option α}

theorem ne_nil (hs : ClauseSearch word starts look) : word ≠ [] := by
  have := hs.word_mem
  rintro rfl
  simp [whereWord, orderWord, limitWord] at this

theorem all_isWord (hs : ClauseSearch word starts look) : word.all isWord = true := by
  have hall : ∀ k ∈ [whereWord, orderWord, limitWord], k.all isWord = true := by decide
  exact hall word hs.word_mem

theorem eq_none (hs : ClauseSearch word starts look) {cs : List Char}
    (h : ∀ c rest, afterKeyword? word cs = some (c :: rest) → starts c = false) :
    look cs = none := by
  cases hl : look cs with
  | none => rfl
  | some a =>
    obtain ⟨c, rest, hafter, hc⟩ := hs.found cs a hl
    rw [h c rest hafter] at hc
    exact absurd hc (by decide)

theorem eq_none_of_keyword (hs : ClauseSearch word starts look) {cs : List Char}
    (h : ¬ word <+: cs) : look cs = none := by
  apply hs.eq_none
  intro c rest hafter
  rw [afterKeyword?_eq_none h] at hafter
  exact absurd hafter (by simp)

theorem findFirst_nil (hs : ClauseSearch word starts look) : findFirst look [] = none :=
  hs.eq_none_of_keyword fun hprefix => hs.ne_nil (List.prefix_nil.1 hprefix)

theorem findFirst_eq_none (hs : ClauseSearch word starts look) {cs : List Char}
    (h : ¬ word <:+: cs) : findFirst look cs = none :=
  findFirst_eq_none_iff.2 fun y hy => hs.eq_none_of_keyword fun hprefix =>
    h (List.infix_iff_prefix_suffix.2 ⟨y, hprefix, hy⟩)

/-- A search passes over a word that does not end in its keyword, or after which no clause can
start. -/
theorem pass_word (hs : ClauseSearch word starts look) {x rest : List Char}
    (hx : ∀ c ∈ x, isWordAscii c = true) (hrest : ∀ c ∈ rest.head?, isWord c = false)
    (h : word <:+ x → ∀ c ∈ (skipBlanks rest).head?, starts c = false) :
    findFirst look (x ++ rest) = findFirst look rest := by
  apply findFirst_append
  intro y _ hy
  apply hs.eq_none
  intro c r hafter
  by_cases hne : y = word
  · rw [hne, afterKeyword?, dropStart?_append, Option.bind_some] at hafter
    exact h (hne ▸ hy) c (by rw [← eq_skipBlanks_of_afterBlanks? hafter, List.head?_cons]; rfl)
  · rw [afterKeyword?_of_ne hs.all_isWord (fun c hc => hx c (hy.subset hc)) hrest hne] at hafter
    exact absurd hafter (by simp)

/-- A search passes over characters that stand in no word. -/
theorem pass_other (hs : ClauseSearch word starts look) {a : List Char}
    (ha : ∀ c ∈ a, isWord c = false) (rest : List Char) :
    findFirst look (a ++ rest) = findFirst look rest := by
  apply findFirst_append
  intro y hne hy
  apply hs.eq_none_of_keyword
  intro hprefix
  obtain ⟨k, ks, rfl⟩ := List.exists_cons_of_ne_nil hs.ne_nil
  obtain ⟨c, y, rfl⟩ := List.exists_cons_of_ne_nil hne
  have hk : isWord k = true := List.all_eq_true.1 hs.all_isWord k List.mem_cons_self
  rw [(List.cons_prefix_cons.1 hprefix).1, ha c (hy.subset List.mem_cons_self)] at hk
  exact absurd hk (by decide)

/-- A search passes over a value that its keyword does not occur in, up to the quote after it. -/
theorem pass_value (hs : ClauseSearch word starts look) {v : List Char} (hv : ¬ word <:+: v)
    {q : Char} (hq : isWord q = false) (rest : List Char) :
    findFirst look (v ++ q :: rest) = findFirst look (q :: rest) := by
  apply findFirst_append
  intro y _ hy
  apply hs.eq_none_of_keyword
  intro hprefix
  have hword : word <+: y := keyword_isPrefix hs.all_isWord (by simpa using hq) hprefix
  exact hv (List.infix_iff_prefix_suffix.2 ⟨y, hword, hy⟩)

end ClauseSearch

theorem afterOrderBy?_eq (cs : List Char) :
    afterOrderBy? cs = (afterKeyword? orderWord cs).bind (dropStart? byWord) := by
  rw [afterOrderBy?, afterKeyword?, Option.bind_assoc]

theorem clauseSearch_condition :
    ClauseSearch whereWord (fun _ => true) conditionHere where
  word_mem := by decide
  starts_of_ne h := absurd rfl h
  found cs a h := by
    rw [conditionHere, ← afterKeyword?] at h
    cases hafter : afterKeyword? whereWord cs with
    | none => simp [hafter] at h
    | some rest =>
      cases rest with
      | nil => simp [hafter] at h
      | cons c rest => exact ⟨c, rest, rfl, rfl⟩

theorem clauseSearch_ordering : ClauseSearch orderWord (· == 'b') orderingHere where
  word_mem := by decide
  starts_of_ne _ c hc := Or.inl (by simpa using hc)
  found cs a h := by
    rw [orderingHere, afterOrderBy?_eq] at h
    cases hafter : afterKeyword? orderWord cs with
    | none => simp [hafter] at h
    | some rest =>
      by_cases hby : byWord <+: rest
      · obtain ⟨t, rfl⟩ := hby
        exact ⟨'b', 'y' :: t, rfl, rfl⟩
      · simp [hafter, dropStart?_eq_none hby] at h

theorem clauseSearch_limit : ClauseSearch limitWord isDigit limitHere where
  word_mem := by decide
  starts_of_ne _ c hc := Or.inr hc
  found cs a h := by
    rw [limitHere, ← afterKeyword?] at h
    cases hafter : afterKeyword? limitWord cs with
    | none => simp [hafter] at h
    | some rest =>
      cases rest with
      | nil => simp [hafter] at h
      | cons c rest =>
        cases hc : isDigit c with
        | true => exact ⟨c, rest, rfl, hc⟩
        | false => simp [hafter, hc] at h

end TableTalk.Query

import Mathlib.Data.List.Forall2
import Mathlib.Data.List.TakeWhile
import TableTalk.Text.Blank
import TableTalk.Text.Letter
import TableTalk.Text.Search

/-!
# Searches in texts put together from parts

A search that finds nothing at any position inside a part goes on with what follows the part. Each
way of searching has one statement of this kind, under the condition that the part and what follows
it give it no reason to stop. Trimming and cutting at a character have theirs. A word in whatever
case at the front of a text can be dropped exactly if the text starts with a spelling of it.
-/

namespace TableTalk.Text

theorem findFirst_append {α : Type} {look : List Char → Option α} {a rest : List Char}
    (h : ∀ y, y ≠ [] → y <:+ a → look (y ++ rest) = none) :
    findFirst look (a ++ rest) = findFirst look rest := by
  induction a with
  | nil => rfl
  | cons c a ih =>
    have hhere : look ((c :: a) ++ rest) = none := h _ (by simp) List.suffix_rfl
    rw [List.cons_append] at hhere ⊢
    rw [findFirst, hhere]
    exact ih fun y hne hy => h y hne (hy.trans (List.suffix_cons c a))

theorem findFirst_of_some {α : Type} {look : List Char → Option α} {cs : List Char} {a : α}
    (h : look cs = some a) : findFirst look cs = some a := by
  cases cs with
  | nil => exact h
  | cons c rest => rw [findFirst, h]

theorem findFirst_eq_none_iff {α : Type} {look : List Char → Option α} {cs : List Char} :
    findFirst look cs = none ↔ ∀ y, y <:+ cs → look y = none := by
  induction cs with
  | nil => simp [findFirst, List.suffix_nil]
  | cons c cs ih =>
    simp only [List.suffix_cons_iff, forall_eq_or_imp, ← ih]
    rw [findFirst]
    cases look (c :: cs) <;> simp

/-- A search ends at the first position at which there is an outcome. -/
theorem findFirst_eq_some_iff {α : Type} {look : List Char → Option α} {cs : List Char} {a : α} :
    findFirst look cs = some a ↔ ∃ rest, rest <:+ cs ∧ look rest = some a ∧
      ∀ y, y <:+ cs → rest.length < y.length → look y = none := by
  induction cs with
  | nil =>
    constructor
    · intro h
      exact ⟨[], List.suffix_rfl, h, fun y hy hlt => by simp [List.suffix_nil.1 hy] at hlt⟩
    · rintro ⟨rest, hrest, h, -⟩
      rwa [List.suffix_nil.1 hrest] at h
  | cons c cs ih =>
    constructor
    · intro h
      rw [findFirst] at h
      cases hhere : look (c :: cs) with
      | some b =>
        rw [hhere] at h
        refine ⟨c :: cs, List.suffix_rfl, hhere.trans h, fun y hy hlt => ?_⟩
        exact absurd hlt (Nat.not_lt.2 hy.length_le)
      | none =>
        rw [hhere] at h
        obtain ⟨rest, hrest, hfound, hbefore⟩ := ih.1 h
        refine ⟨rest, hrest.trans (List.suffix_cons c cs), hfound, fun y hy hlt => ?_⟩
        rcases List.suffix_cons_iff.1 hy with rfl | hy
        · exact hhere
        · exact hbefore y hy hlt
    · rintro ⟨rest, hrest, hfound, hbefore⟩
      rcases List.suffix_cons_iff.1 hrest with rfl | hrest
      · exact findFirst_of_some hfound
      · have hlt : rest.length < (c :: cs).length := Nat.lt_succ_of_le hrest.length_le
        rw [findFirst, hbefore _ List.suffix_rfl hlt]
        exact ih.2 ⟨rest, hrest, hfound, fun y hy => hbefore y (hy.trans (List.suffix_cons c cs))⟩

/-- If two texts look alike from every position inside a common part in front, a search has the same
outcome in that part, if any, and goes on with what follows in each. -/
theorem findFirst_append_or {α : Type} {look : List Char → Option α} {a r r' : List Char}
    (h : ∀ y, y ≠ [] → y <:+ a → look (y ++ r) = look (y ++ r')) :
    ∃ o : Option α, findFirst look (a ++ r) = o.or (findFirst look r) ∧
      findFirst look (a ++ r') = o.or (findFirst look r') := by
  induction a with
  | nil => exact ⟨none, rfl, rfl⟩
  | cons c a ih =>
    have hhere : look ((c :: a) ++ r) = look ((c :: a) ++ r') := h _ (by simp) List.suffix_rfl
    rw [List.cons_append, List.cons_append] at hhere ⊢
    cases hlook : look (c :: (a ++ r')) with
    | some b =>
      rw [hlook] at hhere
      exact ⟨some b, findFirst_of_some hhere, findFirst_of_some hlook⟩
    | none =>
      rw [hlook] at hhere
      rw [findFirst, hhere, findFirst, hlook]
      exact ih fun y hne hy => h y hne (hy.trans (List.suffix_cons c a))

/-- Text added behind changes nothing if no position before it looks different and there is nothing
to find in it. -/
theorem findFirst_append_congr {α : Type} {look : List Char → Option α} {a r : List Char}
    (h : ∀ y, y ≠ [] → y <:+ a → look (y ++ r) = look y) (hr : findFirst look r = look []) :
    findFirst look (a ++ r) = findFirst look a := by
  have hsame : ∀ y, y ≠ [] → y <:+ a → look (y ++ r) = look (y ++ []) := by
    simpa only [List.append_nil] using h
  obtain ⟨o, hlong, hshort⟩ := findFirst_append_or hsame
  rw [List.append_nil] at hshort
  rw [hlong, hshort, hr]
  rfl

theorem upTo?_append {stop : List Char → Bool} {a rest : List Char}
    (h : ∀ y, y ≠ [] → y <:+ a → stop (y ++ rest) = false) :
    upTo? stop (a ++ rest) = (upTo? stop rest).map (a ++ ·) := by
  induction a with
  | nil => simp
  | cons c a ih =>
    have hhere : stop ((c :: a) ++ rest) = false := h _ (by simp) List.suffix_rfl
    rw [List.cons_append] at hhere ⊢
    rw [upTo?, hhere, ih fun y hne hy => h y hne (hy.trans (List.suffix_cons c a)),
      Option.map_map]
    rfl

theorem upTo?_append_of_some {stop : List Char → Bool} {a rest t : List Char}
    (h : ∀ y, y ≠ [] → y <:+ a → stop (y ++ rest) = false) (hrest : upTo? stop rest = some t) :
    upTo? stop (a ++ rest) = some (a ++ t) := by
  rw [upTo?_append h, hrest, Option.map_some]

theorem upTo?_cons {stop : List Char → Bool} {c : Char} {rest t : List Char}
    (h : stop (c :: rest) = false) (hrest : upTo? stop rest = some t) :
    upTo? stop (c :: rest) = some (c :: t) := by
  rw [upTo?, h, hrest]
  rfl

/-- A stop that is reached at white space only is not reached inside a word. -/
theorem upTo?_word {stop : List Char → Bool}
    (hstop : ∀ c rest, isBlank c = false → stop (c :: rest) = false) {x rest t : List Char}
    (hx : ∀ c ∈ x, isBlank c = false) (hrest : upTo? stop rest = some t) :
    upTo? stop (x ++ rest) = some (x ++ t) := by
  apply upTo?_append_of_some _ hrest
  intro y hne hy
  obtain ⟨c, y, rfl⟩ := List.exists_cons_of_ne_nil hne
  exact hstop c _ (hx c (hy.subset List.mem_cons_self))

theorem upTo?_of_stop {stop : List Char → Bool} {cs : List Char} (h : stop cs = true) :
    upTo? stop cs = some [] := by
  cases cs <;> simp [upTo?, h]

theorem upTo?_eq_none {stop : List Char → Bool} {cs : List Char}
    (h : ∀ y, y <:+ cs → stop y = false) : upTo? stop cs = none := by
  induction cs with
  | nil => rw [upTo?, h [] List.suffix_rfl]; rfl
  | cons c cs ih =>
    rw [upTo?, h _ List.suffix_rfl, ih fun y hy => h y (hy.trans (List.suffix_cons c cs))]
    rfl

theorem exists_upTo? {stop : List Char → Bool} (h : stop [] = true) (cs : List Char) :
    ∃ t, upTo? stop cs = some t := by
  induction cs with
  | nil => exact ⟨[], upTo?_of_stop h⟩
  | cons c cs ih =>
    by_cases hc : stop (c :: cs) = true
    · exact ⟨[], upTo?_of_stop hc⟩
    · obtain ⟨t, ht⟩ := ih
      exact ⟨c :: t, upTo?_cons (Bool.eq_false_iff.2 hc) ht⟩

/-- What is passed over ends where the search stops. -/
theorem exists_of_upTo? {stop : List Char → Bool} {cs t : List Char} (h : upTo? stop cs = some t) :
    ∃ rest, cs = t ++ rest ∧ stop rest = true := by
  induction cs generalizing t with
  | nil =>
    rw [upTo?] at h
    split at h
    · next hstop => exact ⟨[], by simp [← Option.some.inj h], hstop⟩
    · cases h
  | cons c cs ih =>
    rw [upTo?] at h
    split at h
    · next hstop => exact ⟨c :: cs, by simp [← Option.some.inj h], hstop⟩
    · obtain ⟨t', ht', rfl⟩ := Option.map_eq_some_iff.1 h
      obtain ⟨rest, rfl, hstop⟩ := ih ht'
      exact ⟨rest, rfl, hstop⟩

theorem upTo?_eq_self_iff {stop : List Char → Bool} {cs : List Char} :
    upTo? stop cs = some cs ↔
      stop [] = true ∧ ∀ y, y ≠ [] → y <:+ cs → stop y = false := by
  induction cs with
  | nil =>
    have hnone : ∀ y : List Char, y ≠ [] → y <:+ [] → stop y = false :=
      fun y hne hy => absurd (List.suffix_nil.1 hy) hne
    have hself : upTo? stop [] = some [] ↔ stop [] = true := by
      rw [upTo?]
      cases stop [] <;> simp
    exact hself.trans ⟨fun h => ⟨h, hnone⟩, fun h => h.1⟩
  | cons c cs ih =>
    have hcons : upTo? stop (c :: cs) = some (c :: cs) ↔
        stop (c :: cs) = false ∧ upTo? stop cs = some cs := by
      rw [upTo?]
      cases stop (c :: cs) <;> simp
    rw [hcons, ih]
    constructor
    · rintro ⟨hhere, hend, hrest⟩
      refine ⟨hend, fun y hne hy => ?_⟩
      rcases List.suffix_cons_iff.1 hy with rfl | hy
      · exact hhere
      · exact hrest y hne hy
    · rintro ⟨hend, hall⟩
      exact ⟨hall _ (by simp) List.suffix_rfl, hend,
        fun y hne hy => hall y hne (hy.trans (List.suffix_cons c cs))⟩

/-- Text added behind changes nothing if no position before it looks different and the search would
go on at its front as at the end. -/
theorem upTo?_append_congr {stop : List Char → Bool} {a r : List Char}
    (h : ∀ y, y ≠ [] → y <:+ a → stop (y ++ r) = stop y) (hr : upTo? stop r = upTo? stop []) :
    upTo? stop (a ++ r) = upTo? stop a := by
  induction a with
  | nil => exact hr
  | cons c a ih =>
    have hhere : stop ((c :: a) ++ r) = stop (c :: a) := h _ (by simp) List.suffix_rfl
    rw [List.cons_append] at hhere ⊢
    rw [upTo?, upTo?, hhere, ih fun y hne hy => h y hne (hy.trans (List.suffix_cons c a))]

/-- A run of characters of a class does not go on in text that starts outside the class. -/
theorem takeWhile_append_congr {p : Char → Bool} (a : List Char) {b : List Char}
    (hb : ∀ c ∈ b.head?, p c = false) : (a ++ b).takeWhile p = a.takeWhile p := by
  induction a with
  | nil =>
    cases b with
    | nil => rfl
    | cons c b => rw [List.nil_append, List.takeWhile_cons_of_neg (by simpa using hb)]; rfl
  | cons c a ih =>
    rw [List.cons_append, List.takeWhile_cons, List.takeWhile_cons, ih]

theorem dropWhile_append_congr {p : Char → Bool} (a : List Char) {b : List Char}
    (hb : ∀ c ∈ b.head?, p c = false) : (a ++ b).dropWhile p = a.dropWhile p ++ b := by
  induction a with
  | nil =>
    cases b with
    | nil => rfl
    | cons c b => rw [List.nil_append, List.dropWhile_cons_of_neg (by simpa using hb)]; rfl
  | cons c a ih =>
    by_cases hc : p c = true
    · rw [List.cons_append, List.dropWhile_cons_of_pos hc, List.dropWhile_cons_of_pos hc, ih]
    · rw [List.cons_append, List.dropWhile_cons_of_neg hc, List.dropWhile_cons_of_neg hc,
        List.cons_append]

theorem takeWhile_append_of_head {p : Char → Bool} {a b : List Char} (ha : ∀ c ∈ a, p c = true)
    (hb : ∀ c ∈ b.head?, p c = false) : (a ++ b).takeWhile p = a :=
  (takeWhile_append_congr a hb).trans (List.takeWhile_eq_self_iff.2 ha)

theorem dropWhile_append_of_head {p : Char → Bool} {a b : List Char} (ha : ∀ c ∈ a, p c = true)
    (hb : ∀ c ∈ b.head?, p c = false) : (a ++ b).dropWhile p = b := by
  rw [dropWhile_append_congr a hb, List.dropWhile_eq_nil_iff.2 ha, List.nil_append]

theorem head?_dropWhile_eq_false (p : Char → Bool) (cs : List Char) :
    ∀ c ∈ (cs.dropWhile p).head?, p c = false := by
  intro c hc
  induction cs with
  | nil => simp at hc
  | cons d cs ih =>
    by_cases hd : p d = true
    · rw [List.dropWhile_cons_of_pos hd] at hc
      exact ih hc
    · rw [List.dropWhile_cons_of_neg hd, List.head?_cons, Option.mem_some_iff] at hc
      rwa [← hc, ← Bool.not_eq_true]

theorem exists_of_dropWhile_ne {c d : Char} {cs rest : List Char}
    (h : cs.dropWhile (· ≠ c) = d :: rest) : ∃ before, c ∉ before ∧ cs = before ++ c :: rest := by
  have hd : d = c := by
    have hhead := head?_dropWhile_eq_false (fun e => decide (e ≠ c)) cs
    rw [h] at hhead
    simpa using hhead d rfl
  subst hd
  refine ⟨cs.takeWhile (· ≠ d), fun hmem => ?_, ?_⟩
  · simpa using List.all_eq_true.1 List.all_takeWhile d hmem
  · rw [← h, List.takeWhile_append_dropWhile]

theorem dropStart?_append (start rest : List Char) :
    dropStart? start (start ++ rest) = some rest := by
  rw [dropStart?, if_pos (List.isPrefixOf_iff_prefix.2 (List.prefix_append start rest)),
    List.drop_left]

theorem dropStart?_eq_none {start cs : List Char} (h : ¬ start <+: cs) :
    dropStart? start cs = none := by
  rw [dropStart?, if_neg (fun hp => h (List.isPrefixOf_iff_prefix.1 hp))]

theorem dropStart?_eq_some_iff {start cs rest : List Char} :
    dropStart? start cs = some rest ↔ cs = start ++ rest := by
  constructor
  · intro h
    by_cases hp : start <+: cs
    · obtain ⟨t, rfl⟩ := hp
      rw [dropStart?_append] at h
      rw [Option.some.inj h]
    · rw [dropStart?_eq_none hp] at h
      cases h
  · rintro rfl
    exact dropStart?_append start rest

/-- A text that starts a longer one but holds nothing of its second part starts the first. -/
theorem prefix_of_prefix_append {start a rest : List Char} (h : start <+: a ++ rest)
    (hrest : ∀ c ∈ rest.head?, c ∉ start) : start <+: a := by
  rcases List.prefix_or_prefix_of_prefix h (List.prefix_append a rest) with ha | ⟨t, rfl⟩
  · exact ha
  · cases t with
    | nil => simp
    | cons c t =>
      obtain ⟨u, hu⟩ := (List.prefix_append_right_inj a).1 h
      exact absurd (List.mem_append_right a List.mem_cons_self) (hrest c (by simp [← hu]))

/-- A text that ends a longer one but holds nothing of its first part ends the second. -/
theorem suffix_of_suffix_append {a rest tail : List Char} (h : tail <:+ a ++ rest)
    (ha : ∀ c ∈ a.getLast?, c ∉ tail) : tail <:+ rest := by
  rw [← List.reverse_prefix, List.reverse_append] at h
  rw [← List.reverse_prefix]
  exact prefix_of_prefix_append h (by simpa using ha)

/-- A text that starts a longer one and ends outside its second part starts the first. -/
theorem prefix_of_concat_prefix {front a rest : List Char} {c : Char}
    (h : front ++ [c] <+: a ++ rest) (hc : c ∉ rest) : front ++ [c] <+: a := by
  rcases List.prefix_or_prefix_of_prefix h (List.prefix_append a rest) with ha | ⟨t, ht⟩
  · exact ha
  · rcases List.eq_nil_or_concat t with rfl | ⟨t, d, rfl⟩
    · rw [List.append_nil] at ht
      exact ht ▸ List.prefix_rfl
    · rw [List.concat_eq_append, ← List.append_assoc] at ht
      have hd : d = c := List.singleton_inj.1 (List.append_inj' ht rfl).2
      rw [← ht, List.append_assoc, List.prefix_append_right_inj] at h
      exact absurd (h.subset (List.mem_append_right t (List.mem_singleton_self d))) (hd ▸ hc)

theorem occurs_eq_true_iff {needle hay : List Char} :
    occurs needle hay = true ↔ needle <:+: hay := by
  induction hay with
  | nil => rw [occurs, List.isEmpty_iff, List.infix_nil]
  | cons c hay ih =>
    rw [occurs, Bool.or_eq_true, ih, List.isPrefixOf_iff_prefix, List.infix_cons_iff]

def IsWithin (needle hay : String) : Prop :=
  needle.toList <:+: hay.toList

theorem contains_eq_true_iff {hay needle : String} :
    contains hay needle = true ↔ IsWithin needle hay :=
  occurs_eq_true_iff

instance (needle hay : String) : Decidable (IsWithin needle hay) :=
  decidable_of_iff (contains hay needle = true) contains_eq_true_iff

theorem spells_iff_forall₂ {letters word : List Char} :
    spells letters word = true ↔ List.Forall₂ (fun l c => isLetter l c = true) letters word := by
  simp only [spells, Bool.and_eq_true, decide_eq_true_eq, List.all_eq_true, List.forall₂_iff_zip]
  exact and_congr eq_comm ⟨fun h l c hmem => h (l, c) hmem, fun h pair hmem => h hmem⟩

/-- Each character of a spelling spells one of the letters. -/
theorem exists_isLetter_of_mem {letters word : List Char} (h : spells letters word = true) :
    ∀ c ∈ word, ∃ l ∈ letters, isLetter l c = true := by
  have hall := spells_iff_forall₂.1 h
  clear h
  induction hall with
  | nil => simp
  | @cons l c letters word hc _ ih =>
    rw [List.forall_mem_cons]
    refine ⟨⟨l, List.mem_cons_self, hc⟩, fun d hd => ?_⟩
    obtain ⟨l', hl', hletter⟩ := ih d hd
    exact ⟨l', List.mem_cons_of_mem l hl', hletter⟩

theorem dropSpelled?_eq_some_iff {letters cs rest : List Char} :
    dropSpelled? letters cs = some rest ↔
      ∃ word, spells letters word = true ∧ cs = word ++ rest := by
  constructor
  · intro h
    rw [dropSpelled?] at h
    split at h
    · next hspells =>
      exact ⟨_, hspells, by rw [← Option.some.inj h, List.take_append_drop]⟩
    · cases h
  · rintro ⟨word, hspells, rfl⟩
    have hlength : word.length = letters.length := (spells_iff_forall₂.1 hspells).length_eq.symm
    rw [dropSpelled?, List.take_left' hlength, if_pos hspells, List.drop_left' hlength]

theorem cutAt?_of_notMem {c : Char} {a : List Char} (h : c ∉ a) (rest : List Char) :
    cutAt? [c] (a ++ c :: rest) = some (a, rest) := by
  induction a with
  | nil => simp [cutAt?]
  | cons d a ih =>
    have hd : c ≠ d := fun he => h (he ▸ List.mem_cons_self)
    have hprefix : ¬ [c] <+: d :: (a ++ c :: rest) := fun hp => hd (List.cons_prefix_cons.1 hp).1
    rw [List.cons_append, cutAt?, if_neg (fun hp => hprefix (List.isPrefixOf_iff_prefix.1 hp)),
      ih fun hmem => h (List.mem_cons_of_mem d hmem)]
    rfl

/-- A text that neither holds another nor ends in the middle of it is what stands before it. -/
theorem cutAt?_append {needle a rest : List Char}
    (h : ∀ y, y ≠ [] → y <:+ a → ¬ needle <+: y ++ (needle ++ rest)) :
    cutAt? needle (a ++ (needle ++ rest)) = some (a, rest) := by
  induction a with
  | nil =>
    have hhere : needle <+: needle ++ rest := List.prefix_append needle rest
    rw [List.nil_append]
    cases hcs : needle ++ rest with
    | nil =>
      obtain ⟨rfl, rfl⟩ := List.append_eq_nil_iff.1 hcs
      rfl
    | cons c cs =>
      rw [cutAt?, ← hcs, if_pos (List.isPrefixOf_iff_prefix.2 hhere), List.drop_left]
  | cons c a ih =>
    have hhere : ¬ needle <+: (c :: a) ++ (needle ++ rest) := h _ (by simp) List.suffix_rfl
    rw [List.cons_append] at hhere ⊢
    rw [cutAt?, if_neg fun hp => hhere (List.isPrefixOf_iff_prefix.1 hp),
      ih fun y hne hy => h y hne (hy.trans (List.suffix_cons c a))]
    rfl

theorem cutAt?_eq_none {c : Char} {cs : List Char} (h : c ∉ cs) : cutAt? [c] cs = none := by
  induction cs with
  | nil => rfl
  | cons d cs ih =>
    have hd : c ≠ d := fun he => h (he ▸ List.mem_cons_self)
    have hprefix : ¬ [c] <+: d :: cs := fun hp => hd (List.cons_prefix_cons.1 hp).1
    rw [cutAt?, if_neg (fun hp => hprefix (List.isPrefixOf_iff_prefix.1 hp)),
      ih fun hmem => h (List.mem_cons_of_mem d hmem)]
    rfl

/-- What stands before the first occurrence of a text does not hold it. -/
theorem not_infix_of_cutAt? {needle cs before after : List Char} (hneedle : needle ≠ [])
    (h : cutAt? needle cs = some (before, after)) : before <+: cs ∧ ¬ needle <:+: before := by
  induction cs generalizing before after with
  | nil =>
    rw [cutAt?, if_neg (by simpa using hneedle)] at h
    cases h
  | cons c cs ih =>
    rw [cutAt?] at h
    by_cases hhere : needle <+: c :: cs
    · rw [if_pos (List.isPrefixOf_iff_prefix.2 hhere)] at h
      obtain ⟨rfl, -⟩ := Prod.mk.inj (Option.some.inj h)
      exact ⟨List.nil_prefix, fun hin => hneedle (List.infix_nil.1 hin)⟩
    · rw [if_neg fun hp => hhere (List.isPrefixOf_iff_prefix.1 hp)] at h
      obtain ⟨⟨front, rest⟩, hrest, hcut⟩ := Option.map_eq_some_iff.1 h
      obtain ⟨rfl, -⟩ := Prod.mk.inj hcut
      obtain ⟨hfront, hnot⟩ := ih hrest
      have hbefore : c :: front <+: c :: cs := List.cons_prefix_cons.2 ⟨rfl, hfront⟩
      refine ⟨hbefore, fun hin => ?_⟩
      rcases List.infix_cons_iff.1 hin with hp | hin
      · exact hhere (hp.trans hbefore)
      · exact hnot hin

theorem cutAt?_eq_none_of_not_infix {needle cs : List Char} (h : ¬ needle <:+: cs) :
    cutAt? needle cs = none := by
  induction cs with
  | nil =>
    have hneedle : needle ≠ [] := fun he => h (he ▸ List.nil_infix)
    rw [cutAt?, if_neg (by simpa using hneedle)]
  | cons c cs ih =>
    rw [List.infix_cons_iff, not_or] at h
    rw [cutAt?, if_neg fun hp => h.1 (List.isPrefixOf_iff_prefix.1 hp), ih h.2]
    rfl

theorem not_infix_of_cutAt?_eq_none {needle cs : List Char} (h : cutAt? needle cs = none) :
    ¬ needle <:+: cs := by
  induction cs with
  | nil =>
    intro hin
    rw [List.infix_nil.1 hin] at h
    cases h
  | cons c cs ih =>
    rw [cutAt?] at h
    by_cases hhere : needle <+: c :: cs
    · rw [if_pos (List.isPrefixOf_iff_prefix.2 hhere)] at h
      cases h
    · rw [if_neg fun hp => hhere (List.isPrefixOf_iff_prefix.1 hp)] at h
      intro hin
      rcases List.infix_cons_iff.1 hin with hp | hin
      · exact hhere hp
      · exact ih (Option.map_eq_none_iff.1 h) hin

theorem splitOn_eq (sep : Char) (cs : List Char) : splitOn sep cs = cs.splitOn sep := by
  induction cs with
  | nil => rfl
  | cons c rest ih =>
    rw [splitOn, List.splitOn_cons_eq_if_modifyHead, ← ih]
    cases h : splitOn sep rest with
    | nil => exact absurd h (splitOn_ne_nil sep rest)
    | cons piece pieces => simp

theorem notMem_of_mem_splitOn {sep : Char} {cs piece : List Char} (h : piece ∈ splitOn sep cs) :
    sep ∉ piece := by
  induction cs generalizing piece with
  | nil =>
    rw [List.mem_singleton.1 h]
    exact List.not_mem_nil
  | cons c rest ih =>
    rw [splitOn] at h
    by_cases hc : c = sep
    · rw [if_pos hc] at h
      rcases List.mem_cons.1 h with rfl | h
      · exact List.not_mem_nil
      · exact ih h
    · rw [if_neg hc] at h
      cases hs : splitOn sep rest with
      | nil => exact absurd hs (splitOn_ne_nil sep rest)
      | cons first others =>
        rw [hs] at h ih
        rcases List.mem_cons.1 h with rfl | h
        · have hfirst : sep ∉ first := ih List.mem_cons_self
          simp [hfirst, Ne.symm hc]
        · exact ih (List.mem_cons_of_mem _ h)

theorem trimLeft_eq_self {cs : List Char} (h : ∀ c ∈ cs.head?, isBlank c = false) :
    trimLeft cs = cs := by
  cases cs with
  | nil => rfl
  | cons c rest => rw [trimLeft, List.dropWhile_cons_of_neg (by simpa using h)]

theorem trimLeft_append {w : List Char} (hw : allBlank w = true) (cs : List Char) :
    trimLeft (w ++ cs) = trimLeft cs := by
  rw [trimLeft, List.dropWhile_append_of_pos (List.all_eq_true.1 hw), trimLeft]

/-- A text that is not white space throughout loses that at its own front only. -/
theorem trimLeft_append_of_ne_nil {a : List Char} (ha : trimLeft a ≠ []) (b : List Char) :
    trimLeft (a ++ b) = trimLeft a ++ b := by
  rw [trimLeft, List.dropWhile_append, ← trimLeft, if_neg (by simpa using ha)]

theorem trimRight_eq_self {cs : List Char} (h : ∀ c ∈ cs.getLast?, isBlank c = false) :
    trimRight cs = cs := by
  rw [trimRight, ← trimLeft, trimLeft_eq_self (by simpa using h), List.reverse_reverse]

theorem trimRight_append (cs : List Char) {w : List Char} (hw : allBlank w = true) :
    trimRight (cs ++ w) = trimRight cs := by
  have hrev : allBlank w.reverse = true := by simpa [allBlank] using hw
  rw [trimRight, List.reverse_append, ← trimLeft, trimLeft_append hrev, trimLeft, ← trimRight]

theorem prefix_trimRight (cs : List Char) : trimRight cs <+: cs := by
  rw [← List.reverse_suffix, trimRight, List.reverse_reverse]
  exact List.dropWhile_suffix isBlank

theorem getLast?_trimRight (cs : List Char) : ∀ c ∈ (trimRight cs).getLast?, isBlank c = false := by
  rw [trimRight, List.getLast?_reverse]
  exact head?_dropWhile_eq_false isBlank cs.reverse

/-- The white space at the end of a text and what stands before it. -/
theorem exists_trimRight (cs : List Char) :
    ∃ w, allBlank w = true ∧ cs = trimRight cs ++ w := by
  refine ⟨(cs.reverse.takeWhile isBlank).reverse, ?_, ?_⟩
  · rw [allBlank, List.all_reverse]
    exact List.all_takeWhile
  · rw [trimRight, ← List.reverse_append, List.takeWhile_append_dropWhile, List.reverse_reverse]

/-- White space goes from the end of what stands behind a text that does not end with any. -/
theorem trimRight_append_of_last {a : List Char} (ha : ∃ c ∈ a.getLast?, isBlank c = false)
    (b : List Char) : trimRight (a ++ b) = a ++ trimRight b := by
  obtain ⟨w, hw, hb⟩ := exists_trimRight b
  have hself : trimRight (a ++ trimRight b) = a ++ trimRight b := by
    apply trimRight_eq_self
    intro c hc
    rw [List.getLast?_append] at hc
    cases hlast : (trimRight b).getLast? with
    | none =>
      obtain ⟨d, hd, hblank⟩ := ha
      rw [hlast, Option.none_or] at hc
      rwa [Option.mem_unique hc hd]
    | some d =>
      rw [hlast] at hc
      obtain rfl : d = c := by simpa using hc
      exact getLast?_trimRight b d hlast
  calc trimRight (a ++ b) = trimRight (a ++ trimRight b ++ w) := by rw [List.append_assoc, ← hb]
    _ = a ++ trimRight b := by rw [trimRight_append _ hw, hself]

theorem allBlank_of_trimRight_eq_nil {cs : List Char} (h : trimRight cs = []) :
    allBlank cs = true := by
  obtain ⟨w, hw, hcs⟩ := exists_trimRight cs
  rw [h, List.nil_append] at hcs
  exact hcs ▸ hw

theorem trimRight_cons {c : Char} (hc : isBlank c = false) (cs : List Char) :
    trimRight (c :: cs) = c :: trimRight cs := by
  obtain ⟨w, hw, hcs⟩ := exists_trimRight cs
  have hself : trimRight (c :: trimRight cs) = c :: trimRight cs := by
    apply trimRight_eq_self
    intro d hd
    rw [List.getLast?_cons] at hd
    cases hlast : (trimRight cs).getLast? with
    | none =>
      rw [hlast] at hd
      obtain rfl : c = d := by simpa using hd
      exact hc
    | some e =>
      rw [hlast] at hd
      obtain rfl : e = d := by simpa using hd
      exact getLast?_trimRight cs e hlast
  calc trimRight (c :: cs) = trimRight (c :: trimRight cs ++ w) := by rw [List.cons_append, ← hcs]
    _ = c :: trimRight cs := by rw [trimRight_append _ hw, hself]

/-- Trimming a text that neither starts nor ends with white space, with white space around it. -/
theorem trimChars_append {w cs w' : List Char} (hw : allBlank w = true) (hw' : allBlank w' = true)
    (hhead : ∀ c ∈ cs.head?, isBlank c = false) (hlast : ∀ c ∈ cs.getLast?, isBlank c = false) :
    trimChars (w ++ (cs ++ w')) = cs := by
  cases cs with
  | nil =>
    rw [trimChars, trimLeft_append hw, List.nil_append, trimLeft_eq_nil_iff.2 hw']
    rfl
  | cons c cs =>
    rw [trimChars, trimLeft_append hw, trimLeft_eq_self (by simpa using hhead),
      trimRight_append _ hw', trimRight_eq_self hlast]

theorem trimChars_eq_self {cs : List Char} (hhead : ∀ c ∈ cs.head?, isBlank c = false)
    (hlast : ∀ c ∈ cs.getLast?, isBlank c = false) : trimChars cs = cs := by
  rw [trimChars, trimLeft_eq_self hhead, trimRight_eq_self hlast]

/-- What is left of a text has white space around it in the text, and none at its own ends. -/
theorem exists_trimChars (cs : List Char) :
    ∃ w w', allBlank w = true ∧ allBlank w' = true ∧ cs = w ++ (trimChars cs ++ w') ∧
      (∀ c ∈ (trimChars cs).head?, isBlank c = false) ∧
      ∀ c ∈ (trimChars cs).getLast?, isBlank c = false := by
  obtain ⟨w', hw', hright⟩ := exists_trimRight (trimLeft cs)
  have hleft : cs = cs.takeWhile isBlank ++ trimLeft cs := List.takeWhile_append_dropWhile.symm
  refine ⟨cs.takeWhile isBlank, w', List.all_takeWhile, hw', ?_, ?_, getLast?_trimRight _⟩
  · rw [trimChars, ← hright]
    exact hleft
  · intro c hc
    apply head?_dropWhile_eq_false isBlank cs c
    have hc' : (trimRight (trimLeft cs)).head? = some c := hc
    rw [← trimLeft, hright, List.head?_append, hc']
    rfl

theorem trimChars_trimChars (cs : List Char) : trimChars (trimChars cs) = trimChars cs := by
  obtain ⟨-, -, -, -, -, hhead, hlast⟩ := exists_trimChars cs
  exact trimChars_eq_self hhead hlast

/-- White space that stands behind a text goes with the white space at its end. -/
theorem trimChars_append_blank (cs : List Char) {w : List Char} (hw : allBlank w = true) :
    trimChars (cs ++ w) = trimChars cs := by
  obtain ⟨before, after, hbefore, hafter, hcs, hhead, hlast⟩ := exists_trimChars cs
  have hend : allBlank (after ++ w) = true := by
    rw [allBlank, List.all_append, ← allBlank, ← allBlank, hafter, hw]
    rfl
  have hsplit : cs ++ w = before ++ (trimChars cs ++ (after ++ w)) := by
    calc cs ++ w = before ++ (trimChars cs ++ after) ++ w := by rw [← hcs]
      _ = _ := by simp only [List.append_assoc]
  rw [hsplit, trimChars_append hbefore hend hhead hlast]

theorem infix_trimChars (cs : List Char) : trimChars cs <:+: cs := by
  obtain ⟨w, w', -, -, hcs, -, -⟩ := exists_trimChars cs
  exact ⟨w, w', by rw [List.append_assoc, ← hcs]⟩

theorem infix_of_infix_append {needle blanks cs : List Char} (hne : needle ≠ [])
    (hneedle : ∀ c ∈ needle, isBlank c = false) (hblanks : allBlank blanks = true)
    (h : needle <:+: blanks ++ cs) : needle <:+: cs := by
  induction blanks with
  | nil => exact h
  | cons blank blanks ih =>
    rw [allBlank, List.all_cons, Bool.and_eq_true] at hblanks
    rcases List.infix_cons_iff.1 h with hstart | hlater
    · -- The needle would start with the blank.
      obtain ⟨c, rest, rfl⟩ := List.exists_cons_of_ne_nil hne
      have hc : c = blank := (List.cons_prefix_cons.1 hstart).1
      have hblank := hneedle c List.mem_cons_self
      rw [hc, hblanks.1] at hblank
      cases hblank
    · exact ih hblanks.2 hlater

/-- Trimming takes no part of a word away. -/
theorem infix_trimChars_iff {needle cs : List Char} (hne : needle ≠ [])
    (hneedle : ∀ c ∈ needle, isBlank c = false) : needle <:+: trimChars cs ↔ needle <:+: cs := by
  refine ⟨fun h => h.trans (infix_trimChars cs), fun h => ?_⟩
  obtain ⟨before, after, hbefore, hafter, hcs, -, -⟩ := exists_trimChars cs
  rw [hcs] at h
  have hfront := infix_of_infix_append hne hneedle hbefore h
  have hreverse : needle.reverse <:+: after.reverse ++ (trimChars cs).reverse := by
    rw [← List.reverse_append]
    exact List.reverse_infix.2 hfront
  refine List.reverse_infix.1 (infix_of_infix_append (by simpa using hne)
    (fun c hc => hneedle c (List.mem_reverse.1 hc)) ?_ hreverse)
  rwa [allBlank, List.all_reverse]

end TableTalk.Text

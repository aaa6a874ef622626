import TableTalk.Generation.Statement
import TableTalk.Proofs.Text.Ascii
import TableTalk.Proofs.Text.Search

/-!
# Statements in the wrappings of a chat

A model may put a label before a statement, a code fence around it or an explanation after an empty
line behind it. Cleaning takes the statement out of each of these wrappings, with one exception: if
the statement is no more than the word of the label and the explanation starts with a colon, both
are taken for a label. A fence that is followed by an explanation is not closed at the end of the
text, and its closing mark stays in the statement.
-/

namespace TableTalk.Generation

open Text

def IsLabel (label : List Char) : Prop :=
  ∃ word w, spells sqlWord word = true ∧ allBlank w = true ∧ label = word ++ (w ++ [':'])

def StartsWithLabel (cs : List Char) : Prop :=
  ∃ label, IsLabel label ∧ label <+: cs

def StartsWithColon (cs : List Char) : Prop :=
  (trimLeft cs).head? = some ':'

instance (cs : List Char) : Decidable (StartsWithColon cs) :=
  inferInstanceAs (Decidable (_ = _))

theorem eq_of_mem_fence {c : Char} (h : c ∈ fence) : c = '\x60' := by
  simpa [fence] using h

/-- No letter of the label is white space or a backtick in any case. -/
theorem isLetter_sqlWord_eq_false {c : Char} (h : isBlank c = true ∨ c ∈ fence) :
    ∀ l ∈ sqlWord, isLetter l c = false := by
  have hall : (sqlWord.all fun l => !isLetter l c) = true := by
    rcases h with hblank | hfence
    · exact forall_blank (p := fun c => (sqlWord.all fun l => !isLetter l c) = true)
        (by decide +kernel) hblank
    · rw [eq_of_mem_fence hfence]
      decide
  simpa using hall

theorem not_blank_or_fence_of_spells {word : List Char} (h : spells sqlWord word = true) :
    ∀ c ∈ word, ¬ (isBlank c = true ∨ c ∈ fence) := by
  intro c hc hout
  obtain ⟨l, hl, hletter⟩ := exists_isLetter_of_mem h c hc
  rw [isLetter_sqlWord_eq_false hout l hl] at hletter
  cases hletter

theorem isBlank_of_spells {word : List Char} (h : spells sqlWord word = true) :
    ∀ c ∈ word, isBlank c = false :=
  fun c hc => Bool.eq_false_iff.2 fun hb => not_blank_or_fence_of_spells h c hc (Or.inl hb)

theorem notMem_fence_of_spells {word : List Char} (h : spells sqlWord word = true) :
    ∀ c ∈ word, c ∉ fence :=
  fun c hc hfence => not_blank_or_fence_of_spells h c hc (Or.inr hfence)

theorem exists_cons_of_spells {word : List Char} (h : spells sqlWord word = true) :
    ∃ c cs, word = c :: cs ∧ isBlank c = false := by
  obtain ⟨c, cs, -, -, hword⟩ := List.forall₂_cons_left_iff.1 (spells_iff_forall₂.1 h)
  exact ⟨c, cs, hword, isBlank_of_spells h c (hword ▸ List.mem_cons_self)⟩

theorem notMem_fence_of_isBlank {c : Char} (h : isBlank c = true) : c ∉ fence := by
  intro hfence
  rw [eq_of_mem_fence hfence] at h
  exact absurd h (by decide)

theorem startsWithLabel_iff {cs : List Char} :
    StartsWithLabel cs ↔ ∃ rest, dropSpelled? sqlWord cs = some rest ∧ StartsWithColon rest := by
  constructor
  · rintro ⟨_, ⟨word, w, hword, hw, rfl⟩, rest, rfl⟩
    refine ⟨w ++ ':' :: rest, dropSpelled?_eq_some_iff.2 ⟨word, hword, by simp⟩, ?_⟩
    rw [StartsWithColon, trimLeft_append hw]
    rfl
  · rintro ⟨rest, hrest, hcolon⟩
    obtain ⟨word, hword, rfl⟩ := dropSpelled?_eq_some_iff.1 hrest
    obtain ⟨after, hafter⟩ := List.head?_eq_some_iff.1 hcolon
    have hsplit : rest = rest.takeWhile isBlank ++ ':' :: after := by
      rw [← hafter]
      exact List.takeWhile_append_dropWhile.symm
    refine ⟨_, ⟨word, rest.takeWhile isBlank, hword, List.all_takeWhile, rfl⟩, after, ?_⟩
    simp [← hsplit]

instance (cs : List Char) : Decidable (StartsWithLabel cs) :=
  decidable_of_iff
    ((dropSpelled? sqlWord cs).any (fun rest => decide (StartsWithColon rest)) = true)
    (by simp [startsWithLabel_iff, Option.any_eq_true])

namespace IsLabel

variable {label : List Char}

theorem notMem_fence (h : IsLabel label) : ∀ c ∈ label, c ∉ fence := by
  obtain ⟨word, w, hword, hw, rfl⟩ := h
  intro c hc
  rcases List.mem_append.1 hc with hc | hc
  · exact notMem_fence_of_spells hword c hc
  · rcases List.mem_append.1 hc with hc | hc
    · exact notMem_fence_of_isBlank (List.all_eq_true.1 hw c hc)
    · rw [List.mem_singleton.1 hc]
      decide

theorem exists_cons (h : IsLabel label) : ∃ c cs, label = c :: cs ∧ isBlank c = false := by
  obtain ⟨word, w, hword, -, rfl⟩ := h
  obtain ⟨c, cs, rfl, hc⟩ := exists_cons_of_spells hword
  exact ⟨c, _, rfl, hc⟩

theorem not_fence_prefix (h : IsLabel label) (cs : List Char) : ¬ fence <+: label ++ cs := by
  intro hp
  obtain ⟨c, front, rfl, -⟩ := h.exists_cons
  obtain rfl : '\x60' = c := (List.cons_prefix_cons.1 hp).1
  exact h.notMem_fence '\x60' List.mem_cons_self (by decide)

theorem getLast? (h : IsLabel label) : label.getLast? = some ':' := by
  obtain ⟨word, w, -, -, rfl⟩ := h
  rw [← List.append_assoc, List.getLast?_concat]

/-- A label goes with the white space behind it. -/
theorem dropLabel (h : IsLabel label) (cs : List Char) :
    dropLabel (label ++ cs) = trimLeft cs := by
  obtain ⟨c, front, hfront, hc⟩ := h.exists_cons
  obtain ⟨word, w, hword, hw, rfl⟩ := h
  have hleft : trimLeft (word ++ (w ++ [':']) ++ cs) = word ++ (w ++ ':' :: cs) := by
    have hhead : ∀ d ∈ (word ++ (w ++ [':']) ++ cs).head?, isBlank d = false := by
      rw [hfront]
      simpa using hc
    rw [trimLeft_eq_self hhead]
    simp
  have hspelled : dropSpelled? sqlWord (word ++ (w ++ ':' :: cs)) = some (w ++ ':' :: cs) :=
    dropSpelled?_eq_some_iff.2 ⟨word, hword, rfl⟩
  have hcolon : trimLeft (w ++ ':' :: cs) = ':' :: cs := by
    rw [trimLeft_append hw, trimLeft_eq_self (by simp [isBlank])]
  simp only [Generation.dropLabel, hleft, hspelled, hcolon]

end IsLabel

theorem dropLabel_eq_self {cs : List Char} (hhead : ∀ c ∈ cs.head?, isBlank c = false)
    (h : ¬ StartsWithLabel cs) : dropLabel cs = cs := by
  rw [dropLabel, trimLeft_eq_self hhead]
  cases hdrop : dropSpelled? sqlWord cs with
  | none => rfl
  | some rest =>
    dsimp only
    split
    · next after hafter =>
      exact absurd (startsWithLabel_iff.2 ⟨rest, hdrop, by rw [StartsWithColon, hafter]; rfl⟩) h
    · rfl

theorem dropOpeningFence_eq_self {cs : List Char} (h : ¬ fence <+: cs) :
    dropOpeningFence cs = cs := by
  rw [dropOpeningFence, dropStart?_eq_none h]

def IsLanguage (language : List Char) : Prop :=
  language = [] ∨ spells sqlWord language = true

theorem dropOpeningFence_fence {language cs : List Char} (hlanguage : IsLanguage language)
    (hhead : ∀ c ∈ cs.head?, isBlank c = false) :
    dropOpeningFence (fence ++ (language ++ '\n' :: cs)) = cs := by
  have hleft : trimLeft ('\n' :: cs) = cs := by
    rw [trimLeft, List.dropWhile_cons_of_pos (by decide), ← trimLeft, trimLeft_eq_self hhead]
  have hname : (dropSpelled? sqlWord (language ++ '\n' :: cs)).getD (language ++ '\n' :: cs) =
      '\n' :: cs := by
    rcases hlanguage with rfl | hspells
    · cases hdrop : dropSpelled? sqlWord ('\n' :: cs) with
      | none => rw [List.nil_append, hdrop, Option.getD_none]
      | some rest =>
        obtain ⟨word, hword, hcs⟩ := dropSpelled?_eq_some_iff.1 hdrop
        obtain ⟨c, word, rfl, hc⟩ := exists_cons_of_spells hword
        obtain rfl : '\n' = c := (List.cons.inj hcs).1
        exact absurd hc (by decide)
    · rw [dropSpelled?_eq_some_iff.2 ⟨language, hspells, rfl⟩, Option.getD_some]
  rw [dropOpeningFence, dropStart?_append]
  dsimp only
  rw [hname, hleft]

theorem dropClosingFence_concat (cs : List Char) :
    dropClosingFence (cs ++ fence) = trimRight cs := by
  have htake : (cs ++ fence).take ((cs ++ fence).length - fence.length) = cs := by simp
  rw [dropClosingFence, if_pos (List.isSuffixOf_iff_suffix.2 (List.suffix_append cs fence)), htake]

theorem dropClosingFence_eq_self {cs : List Char} (h : ¬ fence <:+ cs) :
    dropClosingFence cs = cs := by
  rw [dropClosingFence, if_neg fun hs => h (List.isSuffixOf_iff_suffix.1 hs)]

/-- A fence that closes a text is dropped from what stands behind a front that it does not reach
into. -/
theorem dropClosingFence_append {a b : List Char} (ha : ∃ c ∈ a.getLast?, isBlank c = false)
    (hb : fence <:+ a ++ b → fence <:+ b) :
    dropClosingFence (a ++ b) = a ++ dropClosingFence b := by
  by_cases h : fence <:+ b
  · obtain ⟨front, rfl⟩ := h
    rw [← List.append_assoc, dropClosingFence_concat, dropClosingFence_concat,
      trimRight_append_of_last ha]
  · rw [dropClosingFence_eq_self h, dropClosingFence_eq_self (mt hb h)]

/-- Nothing, or an empty line and what follows it. -/
def IsTail (t : List Char) : Prop :=
  t = [] ∨ ∃ rest, t = '\n' :: '\n' :: rest

theorem IsTail.of_isPrefix {t front : List Char} (ht : IsTail t) (hfront : front <+: t)
    (hlast : ∀ c ∈ front.getLast?, isBlank c = false) : IsTail front := by
  rcases ht with rfl | ⟨rest, rfl⟩
  · exact Or.inl (List.prefix_nil.1 hfront)
  · match front with
    | [] => exact Or.inl rfl
    | [c] =>
      obtain rfl : c = '\n' := (List.cons_prefix_cons.1 hfront).1
      exact absurd (hlast '\n' rfl) (by decide)
    | c :: d :: front =>
      obtain ⟨rfl, hsecond⟩ := List.cons_prefix_cons.1 hfront
      obtain rfl : d = '\n' := (List.cons_prefix_cons.1 hsecond).1
      exact Or.inr ⟨front, rfl⟩

theorem IsTail.trimRight {t : List Char} (ht : IsTail t) : IsTail (trimRight t) :=
  ht.of_isPrefix (prefix_trimRight t) (getLast?_trimRight t)

theorem prefix_dropClosingFence (cs : List Char) : dropClosingFence cs <+: cs := by
  by_cases h : fence <:+ cs
  · obtain ⟨front, rfl⟩ := h
    rw [dropClosingFence_concat]
    exact (prefix_trimRight front).trans (List.prefix_append front fence)
  · simp [dropClosingFence_eq_self h]

theorem IsTail.dropClosingFence {t : List Char} (ht : IsTail t) : IsTail (dropClosingFence t) := by
  by_cases h : fence <:+ t
  · obtain ⟨front, rfl⟩ := h
    refine ht.of_isPrefix (prefix_dropClosingFence _) ?_
    rw [dropClosingFence_concat]
    exact getLast?_trimRight front
  · rwa [dropClosingFence_eq_self h]

/-- No fence reaches from what stands behind a statement into the statement. -/
theorem suffix_of_suffix_append_tail {cs t : List Char} (ht : IsTail t)
    (hcs : t = [] → ¬ fence <:+ cs) (h : fence <:+ cs ++ t) : fence <:+ t := by
  rcases ht with rfl | ⟨rest, rfl⟩
  · rw [List.append_nil] at h
    exact absurd h (hcs rfl)
  · have hsplit : cs ++ '\n' :: '\n' :: rest = (cs ++ ['\n', '\n']) ++ rest := by simp
    rw [hsplit] at h
    have hrest : fence <:+ rest := suffix_of_suffix_append h (by simp [fence])
    exact hrest.trans (List.suffix_append ['\n', '\n'] rest)

theorem StartsWithColon.of_isPrefix {t t' : List Char} (h : StartsWithColon t) (ht : t <+: t') :
    StartsWithColon t' := by
  obtain ⟨rest, rfl⟩ := ht
  obtain ⟨after, hafter⟩ := List.head?_eq_some_iff.1 h
  rw [StartsWithColon, trimLeft_append_of_ne_nil (by rw [hafter]; exact List.cons_ne_nil _ _),
    hafter]
  rfl

theorem StartsWithColon.of_append {x t : List Char} (hx : trimLeft x ≠ [])
    (h : StartsWithColon (x ++ t)) : StartsWithColon x := by
  rw [StartsWithColon, trimLeft_append_of_ne_nil hx, List.head?_append_of_ne_nil _ hx] at h
  exact h

/-- A text without white space at its ends, empty lines or a label. -/
structure IsParagraph (s : List Char) : Prop where
  ne_nil : s ≠ []
  trimmed : trimChars s = s
  unbroken : ¬ ['\n', '\n'] <:+: s
  unlabelled : ¬ StartsWithLabel s

structure IsStatement (s : List Char) : Prop extends IsParagraph s where
  unopened : ¬ fence <+: s
  unclosed : ¬ fence <:+ s

namespace IsParagraph

variable {s t : List Char}

theorem isBlank_head? (hs : IsParagraph s) : ∀ c ∈ s.head?, isBlank c = false := by
  obtain ⟨-, -, -, -, -, hhead, -⟩ := exists_trimChars s
  rwa [hs.trimmed] at hhead

theorem isBlank_getLast? (hs : IsParagraph s) : ∀ c ∈ s.getLast?, isBlank c = false := by
  obtain ⟨-, -, -, -, -, -, hlast⟩ := exists_trimChars s
  rwa [hs.trimmed] at hlast

theorem exists_cons (hs : IsParagraph s) : ∃ c cs, s = c :: cs ∧ isBlank c = false := by
  obtain ⟨c, cs, rfl⟩ := List.exists_cons_of_ne_nil hs.ne_nil
  exact ⟨c, cs, rfl, hs.isBlank_head? c rfl⟩

theorem exists_getLast? (hs : IsParagraph s) : ∃ c ∈ s.getLast?, isBlank c = false :=
  ⟨s.getLast hs.ne_nil, List.getLast?_eq_some_getLast hs.ne_nil,
    hs.isBlank_getLast? _ (List.getLast?_eq_some_getLast hs.ne_nil)⟩

/-- A label that starts in a paragraph and ends behind it has the paragraph for its word. -/
theorem spells_of_startsWithLabel (hs : IsParagraph s) (ht : ∀ c ∈ t.head?, isBlank c = true)
    (h : StartsWithLabel (s ++ t)) : spells sqlWord s = true ∧ StartsWithColon t := by
  obtain ⟨rest, hrest, hcolon⟩ := startsWithLabel_iff.1 h
  obtain ⟨word, hword, hsplit⟩ := dropSpelled?_eq_some_iff.1 hrest
  rcases List.append_eq_append_iff.1 hsplit with ⟨x, hx, ht'⟩ | ⟨x, rfl, rfl⟩
  · -- The word goes on behind the paragraph, where there is white space at most.
    cases x with
    | nil =>
      rw [List.append_nil] at hx
      rw [ht', List.nil_append]
      exact ⟨hx ▸ hword, hcolon⟩
    | cons c x =>
      have hblank : isBlank c = true := ht c (by rw [ht']; rfl)
      have hletter : isBlank c = false :=
        isBlank_of_spells hword c (hx ▸ List.mem_append_right s List.mem_cons_self)
      exact absurd hblank (hletter ▸ Bool.false_ne_true)
  · -- The word ends in the paragraph, so its colon would stand there too.
    cases hx : x with
    | nil =>
      subst hx
      rw [List.append_nil]
      exact ⟨hword, hcolon⟩
    | cons c cs =>
      have hne : trimLeft x ≠ [] := by
        intro hnil
        obtain ⟨d, hd, hblank⟩ := hs.exists_getLast?
        have hmem : d ∈ x := by
          rw [hx, List.getLast?_append_of_ne_nil _ (List.cons_ne_nil c cs)] at hd
          exact hx ▸ List.mem_of_getLast? hd
        rw [List.all_eq_true.1 (trimLeft_eq_nil_iff.1 hnil) d hmem] at hblank
        cases hblank
      refine absurd (startsWithLabel_iff.2 ⟨x, ?_, hcolon.of_append hne⟩) hs.unlabelled
      exact dropSpelled?_eq_some_iff.2 ⟨word, hword, rfl⟩

/-- The first paragraph of a text is what stands before its first empty line. -/
theorem firstParagraph_append (hs : IsParagraph s) (ht : IsTail t) :
    firstParagraph (s ++ t) = s := by
  rcases ht with rfl | ⟨rest, rfl⟩
  · rw [List.append_nil, firstParagraph, cutAt?_eq_none_of_not_infix hs.unbroken]
  · have hcut : cutAt? ['\n', '\n'] (s ++ (['\n', '\n'] ++ rest)) = some (s, rest) := by
      apply cutAt?_append
      intro y hne hy hp
      match y with
      | [] => exact hne rfl
      | [c] =>
        obtain rfl : '\n' = c := (List.cons_prefix_cons.1 hp).1
        obtain ⟨front, rfl⟩ := hy
        exact absurd (hs.isBlank_getLast? '\n' (by simp)) (by decide)
      | c :: d :: y =>
        obtain ⟨rfl, hsecond⟩ := List.cons_prefix_cons.1 hp
        obtain rfl : '\n' = d := (List.cons_prefix_cons.1 hsecond).1
        exact hs.unbroken ((List.prefix_append ['\n', '\n'] y).isInfix.trans hy.isInfix)
    rw [firstParagraph, show '\n' :: '\n' :: rest = ['\n', '\n'] ++ rest from rfl, hcut]

end IsParagraph

def IsFront (front : List Char) : Prop :=
  front = [] ∨ ∃ label w, IsLabel label ∧ allBlank w = true ∧ front = label ++ w

def MakesLabel (s t : List Char) : Prop :=
  spells sqlWord s = true ∧ StartsWithColon t

theorem IsFront.notMem_fence {front : List Char} (h : IsFront front) : ∀ c ∈ front, c ∉ fence := by
  rcases h with rfl | ⟨label, w, hlabel, hw, rfl⟩
  · simp
  · intro c hc
    rcases List.mem_append.1 hc with hc | hc
    · exact hlabel.notMem_fence c hc
    · exact notMem_fence_of_isBlank (List.all_eq_true.1 hw c hc)

theorem trimChars_around {a b w w' : List Char} (hw : allBlank w = true) (hw' : allBlank w' = true)
    (hhead : ∃ c ∈ a.head?, isBlank c = false) (hlast : ∃ c ∈ a.getLast?, isBlank c = false) :
    trimChars (w ++ (a ++ b ++ w')) = a ++ trimRight b := by
  have hleft : trimLeft (a ++ b ++ w') = a ++ b ++ w' := by
    obtain ⟨c, hc, hblank⟩ := hhead
    obtain ⟨cs, rfl⟩ := List.head?_eq_some_iff.1 hc
    exact trimLeft_eq_self (by simpa using hblank)
  rw [trimChars, trimLeft_append hw, hleft, trimRight_append _ hw', trimRight_append_of_last hlast]

section Statement

variable {s t front language w w' : List Char}

theorem IsFront.exists_head? (hfront : IsFront front) (hs : IsParagraph s) :
    ∃ c ∈ (front ++ s).head?, isBlank c = false := by
  rcases hfront with rfl | ⟨label, w, hlabel, -, rfl⟩
  · obtain ⟨c, cs, rfl, hc⟩ := hs.exists_cons
    exact ⟨c, rfl, hc⟩
  · obtain ⟨c, cs, rfl, hc⟩ := hlabel.exists_cons
    exact ⟨c, rfl, hc⟩

theorem IsParagraph.exists_getLast?_append (hs : IsParagraph s) (front : List Char) :
    ∃ c ∈ (front ++ s).getLast?, isBlank c = false := by
  rw [List.getLast?_append_of_ne_nil _ hs.ne_nil]
  exact hs.exists_getLast?

/-- What is left of the text when the fences are gone. -/
theorem trimChars_firstParagraph_dropLabel (hs : IsParagraph s) (ht : IsTail t)
    (hfront : IsFront front) (hlabel : front = [] → ¬ MakesLabel s t) :
    trimChars (firstParagraph (dropLabel (front ++ s ++ t))) = s := by
  have hhead : ∀ c ∈ (s ++ t).head?, isBlank c = false := by
    obtain ⟨c, cs, rfl, hc⟩ := hs.exists_cons
    simpa using hc
  have hdrop : dropLabel (front ++ s ++ t) = s ++ t := by
    rw [List.append_assoc]
    rcases hfront with rfl | ⟨label, w, hl, hw, rfl⟩
    · have hbreak : ∀ c ∈ t.head?, isBlank c = true := by
        rcases ht with rfl | ⟨rest, rfl⟩
        · simp
        · simp [isBlank]
      exact dropLabel_eq_self hhead fun h => hlabel rfl (hs.spells_of_startsWithLabel hbreak h)
    · rw [List.append_assoc, hl.dropLabel, trimLeft_append hw, trimLeft_eq_self hhead]
  rw [hdrop, hs.firstParagraph_append ht, hs.trimmed]

/-- A statement with a label before it, if any, and an explanation behind it, if any. -/
theorem cleanChars_unfenced (hs : IsStatement s) (hfront : IsFront front) (ht : IsTail t)
    (hlabel : front = [] → ¬ MakesLabel s t) (hw : allBlank w = true) (hw' : allBlank w' = true) :
    cleanChars (w ++ (front ++ s ++ t ++ w')) = s := by
  have htrim : trimChars (w ++ (front ++ s ++ t ++ w')) = front ++ s ++ trimRight t :=
    trimChars_around hw hw' (hfront.exists_head? hs.toIsParagraph)
      (hs.exists_getLast?_append front)
  have hopen : ¬ fence <+: front ++ s ++ trimRight t := by
    rcases hfront with rfl | ⟨label, w, hl, -, rfl⟩
    · refine fun h => hs.unopened (prefix_of_prefix_append h fun c hc hfence => ?_)
      rcases ht.trimRight with hnil | ⟨rest, hrest⟩
      · rw [hnil] at hc
        cases hc
      · rw [hrest] at hc
        obtain rfl : '\n' = c := Option.some.inj hc
        exact absurd hfence (by decide)
    · simpa using hl.not_fence_prefix (w ++ (s ++ trimRight t))
  have hclose : ¬ fence <:+ front ++ s := fun h => hs.unclosed
    (suffix_of_suffix_append h fun c hc => hfront.notMem_fence c (List.mem_of_getLast? hc))
  have htail : MakesLabel s (dropClosingFence (trimRight t)) → MakesLabel s t := fun h =>
    ⟨h.1, h.2.of_isPrefix ((prefix_dropClosingFence _).trans (prefix_trimRight t))⟩
  rw [cleanChars, htrim, dropOpeningFence_eq_self hopen,
    dropClosingFence_append (hs.exists_getLast?_append front)
      (suffix_of_suffix_append_tail ht.trimRight fun _ => hclose)]
  exact trimChars_firstParagraph_dropLabel hs.toIsParagraph ht.trimRight.dropClosingFence hfront
    fun hnil h => hlabel hnil (htail h)

/-- A statement in a code fence, with a label before it in the fence, if any. -/
theorem cleanChars_fenced (hs : IsParagraph s) (hfront : IsFront front)
    (hlanguage : IsLanguage language) (hw : allBlank w = true) (hw' : allBlank w' = true) :
    cleanChars (w ++ (fence ++ (language ++ '\n' :: (front ++ s ++ '\n' :: fence)) ++ w')) = s := by
  let text := fence ++ (language ++ '\n' :: (front ++ s ++ '\n' :: fence))
  have hlast : text.getLast? = some '\x60' := by
    have hsplit : text =
        (fence ++ (language ++ '\n' :: (front ++ s ++ ['\n', '\x60', '\x60']))) ++ ['\x60'] := by
      simp [text, fence]
    rw [hsplit, List.getLast?_concat]
  have htrim : trimChars (w ++ (text ++ w')) = text := by
    have haround := trimChars_around (b := []) hw hw' (a := text) ⟨'\x60', rfl, by decide⟩
      ⟨'\x60', hlast, by decide⟩
    rwa [List.append_nil, show trimRight [] = [] from rfl, List.append_nil] at haround
  have hhead : ∀ c ∈ (front ++ s ++ '\n' :: fence).head?, isBlank c = false := by
    obtain ⟨c, hc, hblank⟩ := hfront.exists_head? hs
    obtain ⟨cs, hcs⟩ := List.head?_eq_some_iff.1 hc
    rw [hcs]
    simpa using hblank
  have hclose : dropClosingFence (front ++ s ++ '\n' :: fence) = front ++ s ++ [] := by
    rw [List.append_cons, dropClosingFence_concat,
      trimRight_append_of_last (hs.exists_getLast?_append front)]
    rfl
  rw [cleanChars, htrim, dropOpeningFence_fence hlanguage hhead, hclose]
  exact trimChars_firstParagraph_dropLabel hs (Or.inl rfl) hfront
    fun _ h => absurd h.2 (by decide)

/-- A label in front of anything goes with the white space behind it and a fence at the end. -/
theorem cleanChars_label {label : List Char} (hlabel : IsLabel label) (rest : List Char)
    (hw : allBlank w = true) (hw' : allBlank w' = true) :
    cleanChars (w ++ (label ++ rest ++ w')) =
      trimChars (firstParagraph (trimLeft (dropClosingFence (trimRight rest)))) := by
  obtain ⟨c, cs, hcons, hc⟩ := hlabel.exists_cons
  have hlast : ∃ c ∈ label.getLast?, isBlank c = false := ⟨':', hlabel.getLast?, by decide⟩
  have hclose : fence <:+ label ++ trimRight rest → fence <:+ trimRight rest := fun h =>
    suffix_of_suffix_append h fun c hc => hlabel.notMem_fence c (List.mem_of_getLast? hc)
  rw [cleanChars, trimChars_around hw hw' ⟨c, by rw [hcons]; rfl, hc⟩ hlast,
    dropOpeningFence_eq_self (hlabel.not_fence_prefix _), dropClosingFence_append hlast hclose,
    hlabel.dropLabel]

/-- A fence behind a paragraph makes it a longer one. -/
theorem IsParagraph.append_fence (hs : IsParagraph s) : IsParagraph (s ++ '\n' :: fence) where
  ne_nil := by simp
  trimmed := by
    obtain ⟨c, cs, rfl, hc⟩ := hs.exists_cons
    apply trimChars_eq_self
    · simpa using hc
    · intro d hd
      rw [List.getLast?_append_of_ne_nil _ (List.cons_ne_nil _ _)] at hd
      obtain rfl : '\x60' = d := Option.some.inj hd
      decide
  unbroken := by
    rw [List.infix_append_iff_ne_nil]
    rintro (h | h | ⟨front, rest, hfront, hrest, hsplit, hsuffix, -⟩)
    · exact hs.unbroken h
    · exact absurd h (by decide)
    · -- The first of the two line feeds would end the paragraph.
      match front with
      | [] => exact hfront rfl
      | [c] =>
        obtain rfl : '\n' = c := (List.cons.inj hsplit).1
        obtain ⟨cs, rfl⟩ := hsuffix
        exact absurd (hs.isBlank_getLast? '\n' List.getLast?_concat) (by decide)
      | c :: d :: front =>
        exact hrest (List.append_eq_nil_iff.1 (List.cons.inj (List.cons.inj hsplit).2).2.symm).2
  unlabelled := fun h => by
    have hcolon := (hs.spells_of_startsWithLabel (t := '\n' :: fence) (by simp [isBlank]) h).2
    exact absurd hcolon (by decide)

/-- Something is left behind an empty line if more than white space stands there. -/
theorem trimRight_tail_ne_nil {e : List Char} (he : allBlank e = false) :
    trimRight ('\n' :: '\n' :: e) ≠ [] := by
  intro hnil
  rw [← show allBlank ('\n' :: '\n' :: e) = allBlank e from rfl,
    allBlank_of_trimRight_eq_nil hnil] at he
  cases he

theorem spells_sqlWord_append_fence (hs : s ≠ []) :
    spells sqlWord (s ++ '\n' :: fence) = false := by
  have hlength : (s ++ '\n' :: fence).length ≠ sqlWord.length := by
    have hpos := List.length_pos_iff.2 hs
    simp only [List.length_append, List.length_cons, fence, sqlWord, List.length_nil]
    omega
  rw [spells, decide_eq_false hlength, Bool.false_and]

end Statement

/-- What a model may put around a statement. -/
inductive Wrapping where
  /-- A label in front. -/
  | plain (front : List Char)
  /-- A fence around the statement and a label in front of it, with the name of a language. -/
  | fenced (language front : List Char)
  /-- A label in front, and an explanation behind an empty line. -/
  | explained (front explanation : List Char)

namespace Wrapping

def text (s : List Char) : Wrapping → List Char
  | plain front => front ++ s
  | fenced language front => fence ++ (language ++ '\n' :: (front ++ s ++ '\n' :: fence))
  | explained front e => front ++ s ++ '\n' :: '\n' :: e

/-- The label and the language are the usual ones, or left out. -/
def IsUsual : Wrapping → Prop
  | plain front => IsFront front
  | fenced language front => IsLanguage language ∧ IsFront front
  | explained front _ => IsFront front

/-- There is no label in front, and the statement and the explanation read as one. -/
def IsMistaken (s : List Char) : Wrapping → Prop
  | explained front e => front = [] ∧ MakesLabel s e
  | _ => False

end Wrapping

/-- An explanation that starts with a colon takes the statement `sql` for its label. -/
theorem cleanChars_mistaken {s e rest w w' : List Char} (hs : spells sqlWord s = true)
    (he : trimLeft e = ':' :: rest) (hw : allBlank w = true) (hw' : allBlank w' = true) :
    cleanChars (w ++ ((Wrapping.explained [] e).text s ++ w')) =
      cleanChars (sqlWord ++ ':' :: rest) := by
  have hlabel : IsLabel (s ++ ('\n' :: '\n' :: e.takeWhile isBlank ++ [':'])) :=
    ⟨s, '\n' :: '\n' :: e.takeWhile isBlank, hs,
      show (e.takeWhile isBlank).all isBlank = true from List.all_takeWhile, rfl⟩
  have hplain : IsLabel (sqlWord ++ ([] ++ [':'])) := ⟨sqlWord, [], by decide, rfl, rfl⟩
  have hsplit : (Wrapping.explained [] e).text s =
      s ++ ('\n' :: '\n' :: e.takeWhile isBlank ++ [':']) ++ rest := by
    have hcolon : e = e.takeWhile isBlank ++ ':' :: rest := by
      rw [← he]
      exact List.takeWhile_append_dropWhile.symm
    simp [Wrapping.text, ← hcolon]
  have hempty : allBlank [] = true := rfl
  have hshort := cleanChars_label hplain rest hempty hempty
  rw [hsplit, cleanChars_label hlabel rest hw hw', ← hshort]
  simp

/-- Cleaning takes a statement out of each of the wrappings, whatever white space stands around it.
Only where the statement and the explanation read as a label, what is left is the statement that the
explanation has behind its colon. -/
theorem clean_wrapping {s w w' : List Char} {k : Wrapping} (hs : IsStatement s) (hk : k.IsUsual)
    (hw : allBlank w = true) (hw' : allBlank w' = true) :
    (¬ k.IsMistaken s → clean (String.ofList (w ++ (k.text s ++ w'))) = String.ofList s) ∧
    (k.IsMistaken s → ∃ e rest, k = .explained [] e ∧ trimLeft e = ':' :: rest ∧
      clean (String.ofList (w ++ (k.text s ++ w'))) =
        clean (String.ofList (sqlWord ++ ':' :: rest))) := by
  constructor
  · intro hmistaken
    rw [clean, String.toList_ofList]
    refine congrArg String.ofList ?_
    cases k with
    | plain front =>
      have hempty : front = [] → ¬ MakesLabel s [] := fun _ h => absurd h.2 (by decide)
      have hclean := cleanChars_unfenced hs hk (Or.inl rfl) hempty hw hw'
      rwa [List.append_nil] at hclean
    | fenced language front => exact cleanChars_fenced hs.toIsParagraph hk.2 hk.1 hw hw'
    | explained front e =>
      exact cleanChars_unfenced hs hk (Or.inr ⟨e, rfl⟩) (fun hnil h => hmistaken ⟨hnil, h⟩) hw hw'
  · intro hmistaken
    cases k with
    | plain front => exact absurd hmistaken id
    | fenced language front => exact absurd hmistaken id
    | explained front e =>
      obtain ⟨rfl, hword, hcolon⟩ := hmistaken
      obtain ⟨rest, hrest⟩ := List.head?_eq_some_iff.1 hcolon
      refine ⟨e, rest, rfl, hrest, ?_⟩
      rw [clean, clean, String.toList_ofList, String.toList_ofList,
        cleanChars_mistaken hword hrest hw hw']

theorem isFront_label : IsFront "SQL: ".toList :=
  Or.inr ⟨"SQL:".toList, [' '], ⟨"SQL".toList, [], by decide, rfl, rfl⟩, rfl, by decide⟩

def quotedLabel : List Char :=
  "SELECT a FROM t\nWHERE b = 'sql: x'".toList

theorem isStatement_quotedLabel : IsStatement quotedLabel where
  ne_nil := by decide
  trimmed := by decide +kernel
  unbroken := by decide +kernel
  unlabelled := by decide +kernel
  unopened := by decide +kernel
  unclosed := by decide +kernel

/-- A label in front and an explanation that a fence closes. -/
theorem clean_wrapping_labelled :
    clean "\t SQL: SELECT a FROM t\nWHERE b = 'sql: x'\n\n: see\n\nsql\n```\n" =
      "SELECT a FROM t\nWHERE b = 'sql: x'" := by
  let k : Wrapping := .explained "SQL: ".toList ": see\n\nsql\n```".toList
  have hmistaken : ¬ k.IsMistaken quotedLabel := fun h => absurd h.1 (by decide)
  have husual : k.IsUsual := isFront_label
  have hbefore : allBlank ['\t', ' '] = true := rfl
  have hbehind : allBlank ['\n'] = true := rfl
  have hclean := (clean_wrapping isStatement_quotedLabel husual hbefore hbehind).1 hmistaken
  have htext : String.ofList (['\t', ' '] ++ (k.text quotedLabel ++ ['\n'])) =
      "\t SQL: SELECT a FROM t\nWHERE b = 'sql: x'\n\n: see\n\nsql\n```\n" := by decide +kernel
  rwa [htext] at hclean

/-- The word of the label is lost as a statement before an explanation that starts with a colon. -/
theorem not_clean_wrapping_colon :
    IsStatement sqlWord ∧ (Wrapping.explained [] ": x".toList).IsUsual ∧
      clean (String.ofList ((Wrapping.explained [] ": x".toList).text sqlWord)) = "x" ∧
      clean (String.ofList ((Wrapping.explained [] ": x".toList).text sqlWord)) ≠
        String.ofList sqlWord := by
  have hs : IsStatement sqlWord :=
    ⟨⟨by decide, by decide, by decide, by decide +kernel⟩, by decide, by decide⟩
  exact ⟨hs, Or.inl rfl, by decide +kernel, by decide +kernel⟩

/-- A fence that is followed by an explanation loses its opening mark only: the closing one is left
in the statement. -/
theorem clean_fencedExplained {s e language w w' : List Char} (hs : IsParagraph s)
    (hlanguage : IsLanguage language) (he : allBlank e = false) (hw : allBlank w = true)
    (hw' : allBlank w' = true) :
    clean (String.ofList (w ++
      ((Wrapping.fenced language []).text s ++ '\n' :: '\n' :: e ++ w'))) =
      String.ofList (s ++ '\n' :: fence) := by
  let t := trimRight ('\n' :: '\n' :: e)
  have hfenced : IsParagraph (s ++ '\n' :: fence) := hs.append_fence
  have ht : IsTail t := IsTail.trimRight (Or.inr ⟨e, rfl⟩)
  have hlast : ∃ c ∈ ((Wrapping.fenced language []).text s).getLast?, isBlank c = false := by
    have hsplit : (Wrapping.fenced language []).text s =
        (fence ++ language ++ ['\n']) ++ (s ++ '\n' :: fence) := by simp [Wrapping.text]
    rw [hsplit]
    exact hfenced.exists_getLast?_append _
  have hopen : dropOpeningFence ((Wrapping.fenced language []).text s ++ t) =
      s ++ '\n' :: fence ++ t := by
    have hsplit : (Wrapping.fenced language []).text s ++ t =
        fence ++ (language ++ '\n' :: (s ++ '\n' :: fence ++ t)) := by simp [Wrapping.text]
    have hhead : ∀ c ∈ (s ++ '\n' :: fence ++ t).head?, isBlank c = false := by
      obtain ⟨c, cs, rfl, hc⟩ := hs.exists_cons
      simpa using hc
    rw [hsplit, dropOpeningFence_fence hlanguage hhead]
  -- The text does not end with the closing fence, as there is an explanation behind it.
  have hclose : dropClosingFence (s ++ '\n' :: fence ++ t) =
      s ++ '\n' :: fence ++ dropClosingFence t :=
    dropClosingFence_append hfenced.exists_getLast?
      (suffix_of_suffix_append_tail ht fun hnil => absurd hnil (trimRight_tail_ne_nil he))
  have hunlabelled : ¬ MakesLabel (s ++ '\n' :: fence) (dropClosingFence t) := fun h =>
    absurd h.1 (spells_sqlWord_append_fence hs.ne_nil ▸ Bool.false_ne_true)
  have hfront : IsFront [] := Or.inl rfl
  have hrest := trimChars_firstParagraph_dropLabel hfenced ht.dropClosingFence hfront
    fun _ => hunlabelled
  rw [List.nil_append] at hrest
  rw [clean, String.toList_ofList, cleanChars, trimChars_around hw hw' ⟨'\x60', rfl, by decide⟩
    hlast, hopen, hclose, hrest]

/-- A closing fence before an explanation that has a fence of its own. -/
theorem clean_fencedExplained_twice :
    clean "```sql\nSELECT a FROM t\nWHERE b = 'sql: x'\n```\n\nOr:\n```sql\nSELECT a\n```" =
      "SELECT a FROM t\nWHERE b = 'sql: x'\n```" := by
  have hlanguage : IsLanguage sqlWord := Or.inr (by decide)
  have hclean := @clean_fencedExplained quotedLabel "Or:\n```sql\nSELECT a\n```".toList sqlWord
    [] [] isStatement_quotedLabel.toIsParagraph hlanguage (by decide) rfl rfl
  have htext : String.ofList ([] ++ ((Wrapping.fenced sqlWord []).text quotedLabel ++
      '\n' :: '\n' :: "Or:\n```sql\nSELECT a\n```".toList ++ [])) =
      "```sql\nSELECT a FROM t\nWHERE b = 'sql: x'\n```\n\nOr:\n```sql\nSELECT a\n```" := by
    decide +kernel
  have hresult : String.ofList (quotedLabel ++ '\n' :: fence) =
      "SELECT a FROM t\nWHERE b = 'sql: x'\n```" := by decide +kernel
  rwa [htext, hresult] at hclean

/-- The statement does not come out alone. -/
theorem not_clean_fencedExplained :
    IsStatement "SELECT 1".toList ∧ ¬ fence <:+: "SELECT 1".toList ∧
      clean "```sql\nSELECT 1\n```\n\nDone" = "SELECT 1\n```" ∧
      clean "```sql\nSELECT 1\n```\n\nDone" ≠ "SELECT 1" := by
  have hs : IsStatement "SELECT 1".toList :=
    ⟨⟨by decide, by decide +kernel, by decide +kernel, by decide +kernel⟩, by decide +kernel,
      by decide +kernel⟩
  exact ⟨hs, by decide +kernel, by decide +kernel, by decide +kernel⟩

end TableTalk.Generation

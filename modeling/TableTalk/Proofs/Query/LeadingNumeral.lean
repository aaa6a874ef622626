import Mathlib.Data.List.Basic
import TableTalk.Proofs.Query.SortCell
import TableTalk.Proofs.Text.Numeral

/-!
# The numeral at the front of a cell

The numerals form a grammar: a sign, if any, and either the word `infinity` in any case or digits
with an optional point and an optional exponent. Of the numerals that an ASCII cell starts with
after white space the longest one is read, and the number is the one that this numeral denotes as a
whole. The parts are read one after the other, each as far as it goes. That this gives the longest
numeral rests on one fact: whatever numeral a text starts with, what is left behind the numeral that
is read is a suffix of what is left behind the other one.
-/

namespace TableTalk.Query

open Text Double

def IsDigitRow (cs : List Char) : Prop :=
  ∀ c ∈ cs, c.isDigit = true

/-- Digits, with a point and further digits behind them, if any, or a point with digits behind it.
The digits in front of the point and those behind it come with the text. -/
inductive IsDecimal : List Char → List Char → List Char → Prop
  | whole {ds : List Char} (hne : ds ≠ []) (h : IsDigitRow ds) : IsDecimal ds ds []
  | point {ds fs : List Char} (hne : ds ≠ []) (h : IsDigitRow ds) (hfs : IsDigitRow fs) :
      IsDecimal (ds ++ '.' :: fs) ds fs
  | fraction {fs : List Char} (hne : fs ≠ []) (hfs : IsDigitRow fs) : IsDecimal ('.' :: fs) [] fs

inductive IsExponent : List Char → Option (Bool × List Char) → Prop
  | none : IsExponent [] none
  | some {mark : Char} {sign ds : List Char} (hmark : mark = 'e' ∨ mark = 'E')
      (hsign : IsSign sign) (hne : ds ≠ []) (h : IsDigitRow ds) :
      IsExponent (mark :: (sign ++ ds)) (some (decide (sign = ['-']), ds))

def IsUnsigned (text : List Char) (n : Numeral) : Prop :=
  ∃ decimal exponent, text = decimal ++ exponent ∧ IsDecimal decimal n.whole n.fraction ∧
    IsExponent exponent n.exponent

/-- A numeral denotes the double nearest to its value. -/
inductive Denotes : List Char → Double → Prop
  | infinity {sign word : List Char} (hsign : IsSign sign)
      (hword : word.map Char.toLower = infinityWord) :
      Denotes (sign ++ word) (.infinite (decide (sign = ['-'])))
  | decimal {sign text : List Char} {n : Numeral} (hsign : IsSign sign) (h : IsUnsigned text n) :
      Denotes (sign ++ text) (n.value (decide (sign = ['-'])))

def IsNumeral (text : List Char) : Prop :=
  ∃ x, Denotes text x

structure IsLongestNumeral (cs text : List Char) : Prop where
  isPrefix : text <+: cs
  isNumeral : IsNumeral text
  longest : ∀ other, other <+: cs → IsNumeral other → other.length ≤ text.length

theorem isDigit_of_ascii {c : Char} (hc : c.toNat < 128) : Text.isDigit c = c.isDigit :=
  forall_ascii (p := fun c => Text.isDigit c = c.isDigit) (by decide) hc

theorem IsDigitRow.isDigit {ds : List Char} (h : IsDigitRow ds) :
    ∀ c ∈ ds, Text.isDigit c = true := by
  intro c hc
  rw [Text.isDigit, digit?_of_isDigit (h c hc)]
  rfl

theorem isDigitRow_of_split {cs ds rest : List Char} (hcs : IsAscii cs) (hsplit : cs = ds ++ rest)
    (hds : ∀ c ∈ ds, Text.isDigit c = true) : IsDigitRow ds := by
  intro c hc
  have hmem : c ∈ cs := hsplit ▸ List.mem_append_left rest hc
  rw [← isDigit_of_ascii (hcs c hmem)]
  exact hds c hc

theorem isDigitRow_takeWhile {cs : List Char} (hcs : IsAscii cs) :
    IsDigitRow (cs.takeWhile Text.isDigit) :=
  isDigitRow_of_split hcs List.takeWhile_append_dropWhile.symm fun _ => List.mem_takeWhile_imp

theorem isAscii_of_suffix {cs tail : List Char} (h : IsAscii cs) (hsuffix : tail <:+ cs) :
    IsAscii tail :=
  fun c hc => h c (hsuffix.subset hc)

theorem head_of_isDigitRow {ds rest : List Char} (hne : ds ≠ []) (h : IsDigitRow ds) :
    ∀ c ∈ (ds ++ rest).head?, c ≠ '+' ∧ c ≠ '-' := by
  obtain ⟨d, ds, rfl⟩ := List.exists_cons_of_ne_nil hne
  rintro c ⟨⟩
  have hd := h _ List.mem_cons_self
  constructor <;> rintro rfl <;> cases hd

/-- What can stand at the front of an exponent is no part of a decimal. -/
theorem IsExponent.head {text : List Char} {e : Option (Bool × List Char)} (h : IsExponent text e) :
    ∀ c ∈ text.head?, Text.isDigit c = false ∧ c ≠ '.' := by
  cases h with
  | none => simp
  | some hmark =>
    rintro c ⟨⟩
    rcases hmark with rfl | rfl <;> decide

theorem takeExponent_cases (digit : Char → Bool) (cs : List Char) :
    takeExponent digit cs = (none, cs) ∨ ∃ mark rest, cs = mark :: rest ∧
      (mark = 'e' ∨ mark = 'E') ∧ (takeSign rest).2.takeWhile digit ≠ [] ∧
      takeExponent digit cs = (some ((takeSign rest).1, (takeSign rest).2.takeWhile digit),
        (takeSign rest).2.dropWhile digit) := by
  cases cs with
  | nil => exact Or.inl rfl
  | cons mark rest =>
    by_cases hmark : mark = 'e' ∨ mark = 'E'
    · cases hdigits : (takeSign rest).2.takeWhile digit with
      | nil =>
        left
        simp [takeExponent, hmark, hdigits]
      | cons d ds =>
        refine Or.inr ⟨mark, rest, rfl, hmark, by rw [hdigits]; simp, ?_⟩
        simp [takeExponent, hmark, hdigits]
    · left
      simp [takeExponent, hmark]

theorem takeExponent_suffix (digit : Char → Bool) (cs : List Char) :
    (takeExponent digit cs).2 <:+ cs := by
  rcases takeExponent_cases digit cs with htake | ⟨mark, rest, rfl, -, -, htake⟩
  · rw [htake]
  · obtain ⟨sign, -, hrest, -⟩ := exists_takeSign rest
    rw [htake]
    have hsign : (takeSign rest).2 <:+ rest := ⟨sign, hrest.symm⟩
    exact ((List.dropWhile_suffix _).trans hsign).trans (List.suffix_cons _ _)

/-- What is taken as the exponent is one. -/
theorem exists_isExponent {cs : List Char} (hcs : IsAscii cs) :
    ∃ text, cs = text ++ (takeExponent Text.isDigit cs).2 ∧
      IsExponent text (takeExponent Text.isDigit cs).1 := by
  rcases takeExponent_cases Text.isDigit cs with htake | ⟨mark, rest, rfl, hmark, hne, htake⟩
  · rw [htake]
    exact ⟨[], rfl, .none⟩
  · obtain ⟨sign, hsign, hrest, hminus⟩ := exists_takeSign rest
    have hbody : IsAscii (takeSign rest).2 :=
      isAscii_of_suffix hcs (List.IsSuffix.trans ⟨sign, hrest.symm⟩ (List.suffix_cons mark rest))
    rw [htake, hminus]
    refine ⟨_, ?_, .some hmark hsign hne (isDigitRow_takeWhile hbody)⟩
    rw [List.cons_append, List.append_assoc, List.takeWhile_append_dropWhile, ← hrest]

theorem takeExponent_append {mark : Char} {sign ds : List Char} (hmark : mark = 'e' ∨ mark = 'E')
    (hsign : IsSign sign) (hne : ds ≠ []) (h : IsDigitRow ds) (rest : List Char) :
    takeExponent Text.isDigit (mark :: (sign ++ ds) ++ rest) =
      (some (decide (sign = ['-']), ds ++ rest.takeWhile Text.isDigit),
        rest.dropWhile Text.isDigit) := by
  have htake : (ds ++ rest).takeWhile Text.isDigit = ds ++ rest.takeWhile Text.isDigit :=
    List.takeWhile_append_of_pos h.isDigit
  have hdrop : (ds ++ rest).dropWhile Text.isDigit = rest.dropWhile Text.isDigit :=
    List.dropWhile_append_of_pos h.isDigit
  have hbody : takeSign (sign ++ (ds ++ rest)) = (decide (sign = ['-']), ds ++ rest) :=
    takeSign_append hsign (head_of_isDigitRow hne h)
  obtain ⟨d, ds, rfl⟩ := List.exists_cons_of_ne_nil hne
  rw [List.cons_append, List.append_assoc]
  simp only [takeExponent, if_pos hmark, hbody, htake, hdrop]
  rfl

theorem IsExponent.takeExponent_self {text : List Char} {e : Option (Bool × List Char)}
    (h : IsExponent text e) : takeExponent Text.isDigit text = (e, []) := by
  cases h with
  | none => rfl
  | some hmark hsign hne hds =>
    have htake := takeExponent_append hmark hsign hne hds []
    simpa using htake

/-- An exponent that follows digits is taken at least. -/
theorem IsExponent.suffix {text : List Char} {e : Option (Bool × List Char)} (h : IsExponent text e)
    (rest : List Char) :
    (takeExponent Text.isDigit ((text ++ rest).dropWhile Text.isDigit)).2 <:+ rest := by
  cases h with
  | none => exact (takeExponent_suffix _ _).trans (List.dropWhile_suffix _)
  | @some mark sign ds hmark hsign hne hds =>
    have hhead : Text.isDigit mark = false := by rcases hmark with rfl | rfl <;> decide
    rw [List.cons_append, List.dropWhile_cons_of_neg (by rw [hhead]; decide), ← List.cons_append,
      takeExponent_append hmark hsign hne hds]
    exact List.dropWhile_suffix _

theorem takeNumeral?_whole {whole rest : List Char} (hne : whole ≠ [])
    (hwhole : ∀ c ∈ whole, Text.isDigit c = true)
    (hrest : ∀ c ∈ rest.head?, Text.isDigit c = false ∧ c ≠ '.') :
    takeNumeral? (whole ++ rest) = some (⟨whole, [], (takeExponent Text.isDigit rest).1⟩,
      (takeExponent Text.isDigit rest).2) := by
  have hhead : ∀ c ∈ rest.head?, Text.isDigit c = false := fun c hc => (hrest c hc).1
  obtain ⟨d, ds, rfl⟩ := List.exists_cons_of_ne_nil hne
  rw [takeNumeral?, takeWhile_append_of_head hwhole hhead, dropWhile_append_of_head hwhole hhead]
  cases rest with
  | nil => rfl
  | cons c rest =>
    have hpoint := (hrest c rfl).2
    split
    · next hnil _ => cases hnil
    · next hnil _ => cases hnil
    · next hcons _ => exact absurd (List.cons.inj hcons).1 hpoint
    · rfl

theorem takeNumeral?_point {whole rest : List Char} (hne : whole ≠ [])
    (hwhole : ∀ c ∈ whole, Text.isDigit c = true) :
    takeNumeral? (whole ++ '.' :: rest) = some (⟨whole, rest.takeWhile Text.isDigit,
      (takeExponent Text.isDigit (rest.dropWhile Text.isDigit)).1⟩,
      (takeExponent Text.isDigit (rest.dropWhile Text.isDigit)).2) := by
  have hhead : ∀ c ∈ ('.' :: rest).head?, Text.isDigit c = false := by
    rintro c ⟨⟩
    decide
  obtain ⟨d, ds, rfl⟩ := List.exists_cons_of_ne_nil hne
  rw [takeNumeral?, takeWhile_append_of_head hwhole hhead, dropWhile_append_of_head hwhole hhead]
  rfl

theorem takeNumeral?_fraction {rest : List Char} (hne : rest.takeWhile Text.isDigit ≠ []) :
    takeNumeral? ('.' :: rest) = some (⟨[], rest.takeWhile Text.isDigit,
      (takeExponent Text.isDigit (rest.dropWhile Text.isDigit)).1⟩,
      (takeExponent Text.isDigit (rest.dropWhile Text.isDigit)).2) := by
  obtain ⟨d, ds, hds⟩ := List.exists_cons_of_ne_nil hne
  have htake : ('.' :: rest).takeWhile Text.isDigit = [] :=
    List.takeWhile_cons_of_neg (by decide)
  have hdrop : ('.' :: rest).dropWhile Text.isDigit = '.' :: rest :=
    List.dropWhile_cons_of_neg (by decide)
  rw [takeNumeral?, htake, hdrop]
  simp [hds]

/-- What a text starts with if a numeral is taken from its front. -/
theorem takeNumeral?_cases (cs : List Char) :
    takeNumeral? cs = none ∨
      (∃ whole rest, cs = whole ++ rest ∧ whole ≠ [] ∧ (∀ c ∈ whole, Text.isDigit c = true) ∧
        ∀ c ∈ rest.head?, Text.isDigit c = false ∧ c ≠ '.') ∨
      (∃ whole rest, cs = whole ++ '.' :: rest ∧ whole ≠ [] ∧
        ∀ c ∈ whole, Text.isDigit c = true) ∨
      ∃ rest, cs = '.' :: rest ∧ rest.takeWhile Text.isDigit ≠ [] := by
  have hsplit : cs = cs.takeWhile Text.isDigit ++ cs.dropWhile Text.isDigit :=
    List.takeWhile_append_dropWhile.symm
  have hwhole : ∀ c ∈ cs.takeWhile Text.isDigit, Text.isDigit c = true :=
    fun _ => List.mem_takeWhile_imp
  have hrest := head?_dropWhile_eq_false Text.isDigit cs
  by_cases hne : cs.takeWhile Text.isDigit = []
  · have hself : cs.dropWhile Text.isDigit = cs := by rw [hne] at hsplit; exact hsplit.symm
    by_cases hpoint : ∃ rest, cs = '.' :: rest ∧ rest.takeWhile Text.isDigit ≠ []
    · exact Or.inr (Or.inr (Or.inr hpoint))
    · left
      rw [takeNumeral?, hne, hself]
      split
      · next rest _ =>
        have hbare : rest.takeWhile Text.isDigit = [] :=
          by_contra fun hdigits => hpoint ⟨rest, rfl, hdigits⟩
        rw [hbare]
      · rfl
      · next hother => cases hother rfl
      · next hother _ => cases hother rfl
  · right
    cases hdrop : cs.dropWhile Text.isDigit with
    | nil =>
      rw [hdrop] at hsplit
      exact Or.inl ⟨_, [], hsplit, hne, hwhole, by simp⟩
    | cons c rest =>
      rw [hdrop] at hsplit hrest
      by_cases hc : c = '.'
      · rw [hc] at hsplit
        exact Or.inr (Or.inl ⟨_, rest, hsplit, hne, hwhole⟩)
      · refine Or.inl ⟨_, c :: rest, hsplit, hne, hwhole, ?_⟩
        rintro d ⟨⟩
        exact ⟨hrest c rfl, hc⟩

theorem exists_isUnsigned_of_isDecimal {cs decimal rest fraction whole : List Char}
    (hrest : IsAscii rest) (hcs : cs = decimal ++ rest)
    (hdecimal : IsDecimal decimal whole fraction) :
    ∃ text, cs = text ++ (takeExponent Text.isDigit rest).2 ∧
      IsUnsigned text ⟨whole, fraction, (takeExponent Text.isDigit rest).1⟩ := by
  obtain ⟨exponent, hsplit, hexponent⟩ := exists_isExponent hrest
  exact ⟨decimal ++ exponent, by rw [List.append_assoc, ← hsplit, hcs],
    decimal, exponent, rfl, hdecimal, hexponent⟩

/-- What is taken from the front of a text is a numeral. -/
theorem exists_isUnsigned {cs after : List Char} {n : Numeral} (hcs : IsAscii cs)
    (h : takeNumeral? cs = some (n, after)) : ∃ text, cs = text ++ after ∧ IsUnsigned text n := by
  have hsuffix {tail : List Char} (htail : tail <:+ cs) : IsAscii tail :=
    isAscii_of_suffix hcs htail
  rcases takeNumeral?_cases cs with hnone | ⟨whole, rest, hsplit, hne, hwhole, hrest⟩ |
    ⟨whole, rest, hsplit, hne, hwhole⟩ | ⟨rest, hsplit, hne⟩
  · rw [hnone] at h
    cases h
  · rw [hsplit, takeNumeral?_whole hne hwhole hrest] at h
    obtain ⟨rfl, rfl⟩ := Prod.mk.inj (Option.some.inj h)
    have hdigits : IsDigitRow whole := isDigitRow_of_split hcs hsplit hwhole
    exact exists_isUnsigned_of_isDecimal (hsuffix ⟨whole, hsplit.symm⟩) hsplit (.whole hne hdigits)
  · rw [hsplit, takeNumeral?_point hne hwhole] at h
    obtain ⟨rfl, rfl⟩ := Prod.mk.inj (Option.some.inj h)
    have hdigits : IsDigitRow whole := isDigitRow_of_split hcs hsplit hwhole
    have htail : rest <:+ cs := ⟨whole ++ ['.'], by rw [hsplit]; simp⟩
    refine exists_isUnsigned_of_isDecimal (hsuffix ((List.dropWhile_suffix _).trans htail)) ?_
      (.point hne hdigits (isDigitRow_takeWhile (hsuffix htail)))
    rw [hsplit, List.append_assoc, List.cons_append, List.takeWhile_append_dropWhile]
  · rw [hsplit, takeNumeral?_fraction hne] at h
    obtain ⟨rfl, rfl⟩ := Prod.mk.inj (Option.some.inj h)
    have htail : rest <:+ cs := ⟨['.'], by rw [hsplit]; rfl⟩
    refine exists_isUnsigned_of_isDecimal (hsuffix ((List.dropWhile_suffix _).trans htail)) ?_
      (.fraction hne (isDigitRow_takeWhile (hsuffix htail)))
    rw [hsplit, List.cons_append, List.takeWhile_append_dropWhile]

/-- Behind digits with an exponent the digits may go on, and a point may follow them there. -/
theorem exists_takeNumeral?_whole {ds exponent : List Char} {e : Option (Bool × List Char)}
    (hne : ds ≠ []) (hds : IsDigitRow ds) (hexponent : IsExponent exponent e) (rest : List Char) :
    ∃ m after, takeNumeral? (ds ++ (exponent ++ rest)) = some (m, after) ∧ after <:+ rest := by
  have hsplit : ds ++ (exponent ++ rest) = ds ++ (exponent ++ rest).takeWhile Text.isDigit ++
      (exponent ++ rest).dropWhile Text.isDigit := by
    rw [List.append_assoc, List.takeWhile_append_dropWhile]
  have hmore : ds ++ (exponent ++ rest).takeWhile Text.isDigit ≠ [] :=
    fun hnil => hne (List.append_eq_nil_iff.1 hnil).1
  have hdigits : ∀ c ∈ ds ++ (exponent ++ rest).takeWhile Text.isDigit, Text.isDigit c = true :=
    List.forall_mem_append.2 ⟨hds.isDigit, fun _ => List.mem_takeWhile_imp⟩
  rw [hsplit]
  by_cases hpoint : ∃ tail, (exponent ++ rest).dropWhile Text.isDigit = '.' :: tail
  · obtain ⟨tail, htail⟩ := hpoint
    rw [htail, takeNumeral?_point hmore hdigits]
    have hrest : tail <:+ rest := by
      cases hexponent with
      | none => exact (List.suffix_cons _ _).trans (htail ▸ List.dropWhile_suffix _)
      | some hmark => rcases hmark with rfl | rfl <;> cases htail
    exact ⟨_, _, rfl, ((takeExponent_suffix _ _).trans (List.dropWhile_suffix _)).trans hrest⟩
  · refine ⟨_, _, takeNumeral?_whole hmore hdigits fun c hc => ?_, hexponent.suffix rest⟩
    refine ⟨head?_dropWhile_eq_false _ _ c hc, ?_⟩
    rintro rfl
    exact hpoint (List.head?_eq_some_iff.1 hc)

/-- Where a text starts with a numeral, one is taken from it that is no shorter. -/
theorem IsUnsigned.suffix {text : List Char} {n : Numeral} (h : IsUnsigned text n)
    (rest : List Char) :
    ∃ m after, takeNumeral? (text ++ rest) = some (m, after) ∧ after <:+ rest := by
  obtain ⟨decimal, exponent, rfl, hdecimal, hexponent⟩ := h
  obtain ⟨whole, fraction, e⟩ := n
  dsimp only at hdecimal hexponent
  rw [List.append_assoc]
  cases hdecimal with
  | whole hne hds => exact exists_takeNumeral?_whole hne hds hexponent rest
  | @point ds fs hne hds hfs =>
    rw [List.append_assoc, List.cons_append, takeNumeral?_point hne hds.isDigit,
      List.dropWhile_append_of_pos hfs.isDigit]
    exact ⟨_, _, rfl, hexponent.suffix rest⟩
  | fraction hne hfs =>
    have hdigits : (fraction ++ (exponent ++ rest)).takeWhile Text.isDigit ≠ [] := by
      rw [List.takeWhile_append_of_pos hfs.isDigit]
      exact fun hnil => hne (List.append_eq_nil_iff.1 hnil).1
    rw [List.cons_append, takeNumeral?_fraction hdigits, List.dropWhile_append_of_pos hfs.isDigit]
    exact ⟨_, _, rfl, hexponent.suffix rest⟩

/-- A numeral alone is taken as a whole. -/
theorem IsUnsigned.takeNumeral?_self {text : List Char} {n : Numeral} (h : IsUnsigned text n) :
    takeNumeral? text = some (n, []) := by
  obtain ⟨decimal, exponent, rfl, hdecimal, hexponent⟩ := h
  obtain ⟨whole, fraction, e⟩ := n
  have htake := hexponent.takeExponent_self
  have hhead : ∀ c ∈ exponent.head?, Text.isDigit c = false := fun c hc => (hexponent.head c hc).1
  cases hdecimal with
  | whole hne hds => rw [takeNumeral?_whole hne hds.isDigit hexponent.head, htake]
  | @point ds fs hne hds hfs =>
    rw [List.append_assoc, List.cons_append, takeNumeral?_point hne hds.isDigit,
      takeWhile_append_of_head hfs.isDigit hhead, dropWhile_append_of_head hfs.isDigit hhead, htake]
  | @fraction fs hne hfs =>
    rw [List.cons_append, takeNumeral?_fraction, takeWhile_append_of_head hfs.isDigit hhead,
      dropWhile_append_of_head hfs.isDigit hhead, htake]
    rwa [takeWhile_append_of_head hfs.isDigit hhead]

theorem IsUnsigned.exists_cons {text : List Char} {n : Numeral} (h : IsUnsigned text n) :
    ∃ c cs, text = c :: cs ∧ (c.isDigit = true ∨ c = '.') := by
  obtain ⟨decimal, exponent, rfl, hdecimal, -⟩ := h
  obtain ⟨whole, fraction, e⟩ := n
  cases hdecimal with
  | whole hne hds =>
    obtain ⟨d, ds, rfl⟩ := List.exists_cons_of_ne_nil hne
    exact ⟨d, _, rfl, Or.inl (hds d List.mem_cons_self)⟩
  | point hne hds =>
    obtain ⟨d, ds, hds'⟩ := List.exists_cons_of_ne_nil hne
    rw [hds'] at hds ⊢
    exact ⟨d, _, rfl, Or.inl (hds d List.mem_cons_self)⟩
  | fraction => exact ⟨'.', _, rfl, Or.inr rfl⟩

theorem exists_cons_of_infinity {word : List Char}
    (h : word.map Char.toLower = infinityWord) :
    ∃ c cs, word = c :: cs ∧ c.toLower = 'i' := by
  obtain ⟨c, cs, rfl, hc, -⟩ := List.map_eq_cons_iff.1 h
  exact ⟨c, cs, rfl, hc⟩

theorem forall₂_of_infinity {word : List Char} (h : word.map Char.toLower = infinityWord) :
    List.Forall₂ SpellsLetter infinityWord word := by
  rw [← h, List.forall₂_map_left_iff, List.forall₂_same]
  exact fun c _ => Or.inl rfl

theorem map_toLower_of_spells {letters word : List Char}
    (h : List.Forall₂ SpellsLetter letters word) (hword : IsAscii word) :
    word.map Char.toLower = letters := by
  induction h with
  | nil => rfl
  | @cons letter c letters word hc _ ih =>
    obtain ⟨hascii, hword⟩ := List.forall_mem_cons.1 hword
    rw [List.map_cons, ih hword]
    rcases hc with rfl | ⟨-, rfl | rfl⟩
    · rfl
    · exact absurd hascii (by decide)
    · exact absurd hascii (by decide)

theorem not_spellsLetter {c : Char} (h : c.isDigit = true ∨ c = '.') : ¬ SpellsLetter 'i' c := by
  rcases h with h | rfl
  · have hword : isWordAscii c = true := by simp [isWordAscii, Char.isAlphanum, h]
    exact forall_ascii (p := fun c => c.isDigit = true → ¬ SpellsLetter 'i' c) (by decide)
      (toNat_lt_of_isWordAscii hword) h
  · decide

theorem takeInfinity?_of_isUnsigned {text : List Char} {n : Numeral} (h : IsUnsigned text n)
    (rest : List Char) : takeInfinity? (text ++ rest) = none := by
  obtain ⟨c, cs, rfl, hc⟩ := h.exists_cons
  rw [Option.eq_none_iff_forall_ne_some]
  intro word hword
  obtain ⟨hspells, hfront⟩ := takeInfinity?_eq_some_iff.1 hword
  obtain ⟨d, word, hd, -, rfl⟩ := List.forall₂_cons_left_iff.1 hspells
  rw [List.cons_append, List.cons_prefix_cons] at hfront
  exact not_spellsLetter hc (hfront.1 ▸ hd)

theorem takeInfinity?_append {word : List Char} (h : word.map Char.toLower = infinityWord)
    (rest : List Char) : takeInfinity? (word ++ rest) = some word :=
  takeInfinity?_eq_some_iff.2 ⟨forall₂_of_infinity h, List.prefix_append word rest⟩

theorem head_of_isUnsigned {text : List Char} {n : Numeral} (h : IsUnsigned text n)
    (rest : List Char) : ∀ c ∈ (text ++ rest).head?, c ≠ '+' ∧ c ≠ '-' := by
  obtain ⟨c, cs, rfl, hc⟩ := h.exists_cons
  rintro d ⟨⟩
  rcases hc with hc | rfl
  · constructor <;> rintro rfl <;> cases hc
  · decide

theorem head_of_infinity {word : List Char} (h : word.map Char.toLower = infinityWord)
    (rest : List Char) : ∀ c ∈ (word ++ rest).head?, c ≠ '+' ∧ c ≠ '-' := by
  obtain ⟨c, cs, rfl, hc⟩ := exists_cons_of_infinity h
  rintro d ⟨⟩
  exact (not_sign_of_spellsLetter (Or.inl hc)).1

theorem takeNumeral?_infinity {word : List Char} (h : word.map Char.toLower = infinityWord) :
    takeNumeral? word = none := by
  obtain ⟨c, cs, rfl, hc⟩ := exists_cons_of_infinity h
  have hother : Text.isDigit c = false ∧ c ≠ '.' :=
    forall_ascii (p := fun c => c.toLower = 'i' → Text.isDigit c = false ∧ c ≠ '.') (by decide)
      (toNat_lt_of_toLower (hc ▸ by decide)) hc
  have hdigit : ¬ Text.isDigit c = true := by rw [hother.1]; decide
  rw [takeNumeral?, List.takeWhile_cons_of_neg hdigit, List.dropWhile_cons_of_neg hdigit]
  simp [hother.2]

section Cells

variable {cell : String} {body : List Char} {negative : Bool}

theorem leading_of_word {word : List Char} (hsign : takeSign (trimLeft cell.toList) = (negative, body))
    (hword : takeInfinity? body = some word) (hascii : IsAscii word) :
    leading cell = .ok (some (.infinite negative)) := by
  have hall : (word.all fun c => c.toNat < 128) = true := by simpa [IsAscii] using hascii
  simp only [leading, hsign, hword, if_pos hall]

theorem leading_of_decimal (hsign : takeSign (trimLeft cell.toList) = (negative, body))
    (hword : takeInfinity? body = none) :
    leading cell = .ok ((takeNumeral? body).map fun (n, _) => n.value negative) := by
  simp only [leading, hsign, hword]

/-- What is found at the front of a text that starts with a numeral: the rest of the text behind it
is a suffix of what follows the numeral. -/
theorem found_of_isNumeral {cs text rest : List Char} (hcs : cs = text ++ rest)
    (h : IsNumeral text) :
    (∃ word tail, takeInfinity? (takeSign cs).2 = some word ∧ (takeSign cs).2 = word ++ tail ∧
      tail <:+ rest) ∨
    (takeInfinity? (takeSign cs).2 = none ∧
      ∃ n after, takeNumeral? (takeSign cs).2 = some (n, after) ∧ after <:+ rest) := by
  obtain ⟨x, h⟩ := h
  subst hcs
  cases h with
  | @infinity sign word hsign hword =>
    rw [List.append_assoc, takeSign_append hsign (head_of_infinity hword rest)]
    exact Or.inl ⟨word, rest, takeInfinity?_append hword rest, rfl, List.suffix_rfl⟩
  | @decimal sign text n hsign hunsigned =>
    rw [List.append_assoc, takeSign_append hsign (head_of_isUnsigned hunsigned rest)]
    exact Or.inr ⟨takeInfinity?_of_isUnsigned hunsigned rest, hunsigned.suffix rest⟩

/-- A cell is read as the number that a numeral at its front denotes, behind which the rest is a
suffix of the rest behind every other numeral; if there is no numeral, it is read as no number. -/
theorem leading_cases (h : IsAscii cell.toList) :
    (leading cell = .ok none ∧ ∀ text, text <+: trimLeft cell.toList → ¬ IsNumeral text) ∨
      ∃ text after x, trimLeft cell.toList = text ++ after ∧ Denotes text x ∧
        leading cell = .ok (some x) ∧
        ∀ other rest, trimLeft cell.toList = other ++ rest → IsNumeral other → after <:+ rest := by
  have hascii : IsAscii (trimLeft cell.toList) :=
    isAscii_of_suffix h (List.dropWhile_suffix _)
  obtain ⟨sign, hsign, hsplit, hminus⟩ := exists_takeSign (trimLeft cell.toList)
  have hfound {other rest : List Char} (hother : trimLeft cell.toList = other ++ rest)
      (hnumeral : IsNumeral other) := found_of_isNumeral hother hnumeral
  have hbody : IsAscii (takeSign (trimLeft cell.toList)).2 :=
    isAscii_of_suffix hascii ⟨sign, hsplit.symm⟩
  have htake : takeSign (trimLeft cell.toList) =
      (decide (sign = ['-']), (takeSign (trimLeft cell.toList)).2) := Prod.ext hminus rfl
  generalize (takeSign (trimLeft cell.toList)).2 = body at *
  cases hword : takeInfinity? body with
  | some word =>
    right
    obtain ⟨hspells, tail, rfl⟩ := takeInfinity?_eq_some_iff.1 hword
    have hwordAscii : IsAscii word := fun c hc => hbody c (List.mem_append_left _ hc)
    refine ⟨sign ++ word, tail, _, by rw [hsplit, List.append_assoc],
      .infinity hsign (map_toLower_of_spells hspells hwordAscii),
      leading_of_word htake hword hwordAscii, fun other rest hother hnumeral => ?_⟩
    rcases hfound hother hnumeral with ⟨word', tail', hword', hsame, htail⟩ | ⟨hnone, -⟩
    · obtain rfl := Option.some.inj (hword.symm.trans hword')
      rwa [List.append_cancel_left hsame]
    · cases hword.symm.trans hnone
  | none =>
    have hleading := leading_of_decimal htake hword
    cases hnumeral : takeNumeral? body with
    | none =>
      rw [hnumeral] at hleading
      refine Or.inl ⟨hleading, fun text htext hisNumeral => ?_⟩
      obtain ⟨rest, hrest⟩ := htext
      rcases hfound hrest.symm hisNumeral with ⟨_, _, hsome, -⟩ | ⟨-, _, _, hsome, -⟩
      · cases hword.symm.trans hsome
      · cases hnumeral.symm.trans hsome
    | some taken =>
      right
      obtain ⟨n, after⟩ := taken
      rw [hnumeral] at hleading
      obtain ⟨text, rfl, hunsigned⟩ := exists_isUnsigned hbody hnumeral
      refine ⟨sign ++ text, after, _, by rw [hsplit, List.append_assoc],
        .decimal hsign hunsigned, hleading, fun other rest hother hisNumeral => ?_⟩
      rcases hfound hother hisNumeral with ⟨_, _, hsome, -⟩ | ⟨-, m, after', hsome, hafter⟩
      · cases hword.symm.trans hsome
      · obtain ⟨-, rfl⟩ := Prod.mk.inj (Option.some.inj (hnumeral.symm.trans hsome))
        exact hafter

end Cells

theorem isBlank_of_isDigit {c : Char} (h : c.isDigit = true) : isBlank c = false ∧ c ≠ '_' := by
  have hword : isWordAscii c = true := by simp [isWordAscii, Char.isAlphanum, h]
  refine ⟨isBlank_of_isWordAscii hword, ?_⟩
  rintro rfl
  cases h

theorem IsSign.forall_mem {sign : List Char} (h : IsSign sign) :
    ∀ c ∈ sign, isBlank c = false ∧ c ≠ '_' := by
  rcases h with rfl | rfl | rfl <;> simp [isBlank]

theorem forall_mem_infinity {word : List Char} (h : word.map Char.toLower = infinityWord) :
    ∀ c ∈ word, isBlank c = false ∧ c ≠ '_' := by
  intro c hc
  have hlower : c.toLower ∈ infinityWord := h ▸ List.mem_map_of_mem hc
  have hascii : c.toNat < 128 :=
    toNat_lt_of_toLower ((show IsAscii infinityWord by decide) _ hlower)
  exact forall_ascii (p := fun c => c.toLower ∈ infinityWord → isBlank c = false ∧ c ≠ '_')
    (by decide) hascii hlower

theorem IsUnsigned.forall_mem {text : List Char} {n : Numeral} (h : IsUnsigned text n) :
    ∀ c ∈ text, isBlank c = false ∧ c ≠ '_' := by
  have hrow {ds : List Char} (hds : IsDigitRow ds) : ∀ c ∈ ds, isBlank c = false ∧ c ≠ '_' :=
    fun c hc => isBlank_of_isDigit (hds c hc)
  obtain ⟨decimal, exponent, rfl, hdecimal, hexponent⟩ := h
  obtain ⟨whole, fraction, e⟩ := n
  dsimp only at hdecimal hexponent
  refine List.forall_mem_append.2 ⟨?_, ?_⟩
  · cases hdecimal with
    | whole hne hds => exact hrow hds
    | point hne hds hfs =>
      exact List.forall_mem_append.2 ⟨hrow hds, List.forall_mem_cons.2 ⟨by decide, hrow hfs⟩⟩
    | fraction hne hfs => exact List.forall_mem_cons.2 ⟨by decide, hrow hfs⟩
  · cases hexponent with
    | none => simp
    | some hmark hsign hne hds =>
      refine List.forall_mem_cons.2 ⟨?_, List.forall_mem_append.2 ⟨hsign.forall_mem, hrow hds⟩⟩
      rcases hmark with rfl | rfl <;> decide

theorem trimNumeral_eq_self {cs : List Char} (h : ∀ c ∈ cs, isBlank c = false) :
    trimNumeral cs = cs := by
  have hdrop {cs : List Char} (h : ∀ c ∈ cs, isBlank c = false) :
      cs.dropWhile isNumeralBlank = cs := by
    cases cs with
    | nil => rfl
    | cons c cs =>
      rw [List.dropWhile_cons_of_neg]
      simp [isNumeralBlank, h c List.mem_cons_self]
  rw [trimNumeral, hdrop h, hdrop fun c hc => h c (List.mem_reverse.1 hc), List.reverse_reverse]

theorem dropUnderscores?_of_notMem {cs : List Char} (h : '_' ∉ cs) (afterDigit : Bool) :
    dropUnderscores? afterDigit cs = some cs := by
  induction cs generalizing afterDigit with
  | nil => rfl
  | cons c cs ih =>
    rw [List.mem_cons, not_or] at h
    rw [dropUnderscores?, ih h.2, Option.map_some]
    exact Ne.symm h.1

/-- A numeral is read as a whole as the number that it denotes. -/
theorem ofText?_of_denotes {text : List Char} {x : Double} (h : Denotes text x) :
    ofText? (String.ofList text) = some x := by
  have hplain : ∀ c ∈ text, isBlank c = false ∧ c ≠ '_' := by
    cases h with
    | infinity hsign hword =>
      exact List.forall_mem_append.2 ⟨hsign.forall_mem, forall_mem_infinity hword⟩
    | decimal hsign hunsigned =>
      exact List.forall_mem_append.2 ⟨hsign.forall_mem, hunsigned.forall_mem⟩
  have htrim : trimNumeral text = text := trimNumeral_eq_self fun c hc => (hplain c hc).1
  have hbars : dropUnderscores? false text = some text :=
    dropUnderscores?_of_notMem (fun hmem => (hplain _ hmem).2 rfl) false
  rw [ofText?, String.toList_ofList, htrim, hbars]
  cases h with
  | @infinity sign word hsign hword =>
    have hhead := head_of_infinity hword []
    rw [List.append_nil] at hhead
    simp only [Option.bind_eq_bind, Option.bind_some, takeSign_append hsign hhead,
      takeNumeral?_infinity hword, hword]
    rfl
  | @decimal sign text n hsign hunsigned =>
    have hhead := head_of_isUnsigned hunsigned []
    rw [List.append_nil] at hhead
    simp only [Option.bind_eq_bind, Option.bind_some, takeSign_append hsign hhead,
      hunsigned.takeNumeral?_self]

/-- An ASCII cell is read as no number exactly if no numeral stands at its front after white space.
Otherwise it is read as the number that the longest such numeral denotes, which is also what this
numeral is read as on its own. -/
theorem leading_longest {cell : String} (h : IsAscii cell.toList) :
    (leading cell = .ok none ∧ ∀ text, text <+: trimLeft cell.toList → ¬ IsNumeral text) ∨
      ∃ text x, IsLongestNumeral (trimLeft cell.toList) text ∧ Denotes text x ∧
        ofText? (String.ofList text) = some x ∧ leading cell = .ok (some x) := by
  rcases leading_cases h with hnone | ⟨text, after, x, hsplit, hdenotes, hleading, hlongest⟩
  · exact Or.inl hnone
  · refine Or.inr ⟨text, x, ⟨⟨after, hsplit.symm⟩, ⟨x, hdenotes⟩, ?_⟩, hdenotes,
      ofText?_of_denotes hdenotes, hleading⟩
    rintro other ⟨rest, hother⟩ hnumeral
    have hsuffix : after.length ≤ rest.length :=
      (hlongest other rest hother.symm hnumeral).length_le
    have hlengths := congrArg List.length (hother.trans hsplit)
    rw [List.length_append, List.length_append] at hlengths
    omega

/-- The point may stand without digits behind it, and a letter e without digits is left over. -/
theorem leading_longest_point :
    IsAscii "\t-1.e5e+".toList ∧ ∃ text x,
      IsLongestNumeral (trimLeft "\t-1.e5e+".toList) text ∧ Denotes text x ∧
        leading "\t-1.e5e+" = .ok (some x) ∧ ofText? "-100000" = some x := by
  have hascii : IsAscii "\t-1.e5e+".toList := by decide +kernel
  have hvalue : leading "\t-1.e5e+" = .ok (ofText? "-100000") := by decide +kernel
  have hsome : ofText? "-100000" ≠ none := by decide +kernel
  rcases leading_longest hascii with ⟨hnone, -⟩ | ⟨text, x, hlongest, hdenotes, -, hleading⟩
  · exact absurd (Except.ok.inj (hvalue.symm.trans hnone)) hsome
  · exact ⟨hascii, text, x, hlongest, hdenotes, hleading,
      Except.ok.inj (hvalue.symm.trans hleading)⟩

end TableTalk.Query

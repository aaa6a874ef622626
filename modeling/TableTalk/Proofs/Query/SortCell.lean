import Mathlib.Data.List.Forall2
import TableTalk.Proofs.Failure
import TableTalk.Proofs.Text.Ascii
import TableTalk.Proofs.Text.Search
import TableTalk.Query.Order

/-!
# Cells that cannot be read as numbers

The number at the start of a cell can be read unless the cell starts with the word `infinity`
spelled with a dotless or a dotted capital i: these count as the letter when the word is recognised,
but they are no ASCII letters.
-/

namespace TableTalk.Query

open Text Double

/-- The character is the letter in either case, where a dotless and a dotted capital i count as the
letter i. -/
def SpellsLetter (letter c : Char) : Prop :=
  c.toLower = letter ∨ letter = 'i' ∧ (c = 'ı' ∨ c = 'İ')

instance (letter c : Char) : Decidable (SpellsLetter letter c) :=
  inferInstanceAs (Decidable (_ ∨ _))

def IsSign (s : List Char) : Prop :=
  s = [] ∨ s = ['+'] ∨ s = ['-']

/-- After white space and a sign, if any, the cell has the word `infinity` in some case, with a
dotless or a dotted capital i in it. -/
def IsDottedInfinity (cell : String) : Prop :=
  ∃ w sign word rest, allBlank w = true ∧ IsSign sign ∧
    List.Forall₂ SpellsLetter infinityWord word ∧ ('ı' ∈ word ∨ 'İ' ∈ word) ∧
    cell.toList = w ++ (sign ++ (word ++ rest))

theorem isLetter_eq_true_iff {letter c : Char} (hletter : letter ∈ infinityWord) :
    isLetter letter c = true ↔ SpellsLetter letter c := by
  have hs : letter ≠ 's' := fun h => absurd (h ▸ hletter) (by decide)
  have hk : letter ≠ 'k' := fun h => absurd (h ▸ hletter) (by decide)
  simp [isLetter, SpellsLetter, hs, hk]

theorem spells_infinityWord_iff {word : List Char} :
    spells infinityWord word = true ↔ List.Forall₂ SpellsLetter infinityWord word := by
  rw [spells_iff_forall₂, List.forall₂_iff_zip, List.forall₂_iff_zip]
  refine and_congr_right fun _ => ⟨fun h letter c hmem => ?_, fun h letter c hmem => ?_⟩
  · exact (isLetter_eq_true_iff (List.of_mem_zip hmem).1).1 (h hmem)
  · exact (isLetter_eq_true_iff (List.of_mem_zip hmem).1).2 (h hmem)

/-- Among the characters that spell an ASCII word only the dotless and the dotted capital i are
beyond ASCII. -/
theorem isAscii_or_of_spells {letters word : List Char} (hletters : IsAscii letters)
    (h : List.Forall₂ SpellsLetter letters word) :
    ∀ c ∈ word, c.toNat < 128 ∨ c = 'ı' ∨ c = 'İ' := by
  induction h with
  | nil => simp
  | @cons letter c letters word hc _ ih =>
    rw [List.forall_mem_cons]
    refine ⟨?_, ih fun d hd => hletters d (List.mem_cons_of_mem letter hd)⟩
    rcases hc with rfl | ⟨_, hc⟩
    · exact Or.inl (toNat_lt_of_toLower (hletters _ List.mem_cons_self))
    · exact Or.inr hc

theorem not_isAscii_iff {word : List Char} (h : List.Forall₂ SpellsLetter infinityWord word) :
    ¬ IsAscii word ↔ 'ı' ∈ word ∨ 'İ' ∈ word := by
  constructor
  · intro hnot
    by_contra hnone
    rw [not_or] at hnone
    apply hnot
    intro c hc
    rcases isAscii_or_of_spells (by decide) h c hc with hascii | rfl | rfl
    · exact hascii
    · exact absurd hc hnone.1
    · exact absurd hc hnone.2
  · rintro (hmem | hmem) hascii
    · exact absurd (hascii _ hmem) (by decide)
    · exact absurd (hascii _ hmem) (by decide)

theorem takeInfinity?_eq_some_iff {body word : List Char} :
    takeInfinity? body = some word ↔
      List.Forall₂ SpellsLetter infinityWord word ∧ word <+: body := by
  rw [← spells_infinityWord_iff]
  constructor
  · intro h
    simp only [takeInfinity?] at h
    split at h
    · next hspells =>
      obtain rfl := Option.some.inj h
      exact ⟨hspells, List.take_prefix _ _⟩
    · cases h
  · rintro ⟨hspells, rest, rfl⟩
    have htake : (word ++ rest).take infinityWord.length = word := by
      rw [(spells_infinityWord_iff.1 hspells).length_eq, List.take_left]
    simp only [takeInfinity?, htake, if_pos hspells]

theorem exists_takeSign (cs : List Char) :
    ∃ sign, IsSign sign ∧ cs = sign ++ (takeSign cs).2 ∧
      (takeSign cs).1 = decide (sign = ['-']) := by
  unfold takeSign
  split
  · exact ⟨['-'], Or.inr (Or.inr rfl), rfl, rfl⟩
  · exact ⟨['+'], Or.inr (Or.inl rfl), rfl, rfl⟩
  · exact ⟨[], Or.inl rfl, rfl, rfl⟩

theorem takeSign_append {sign rest : List Char} (hsign : IsSign sign)
    (hrest : ∀ c ∈ rest.head?, c ≠ '+' ∧ c ≠ '-') :
    takeSign (sign ++ rest) = (decide (sign = ['-']), rest) := by
  rcases hsign with rfl | rfl | rfl
  · rw [List.nil_append]
    unfold takeSign
    split
    · exact absurd rfl (hrest '-' rfl).2
    · exact absurd rfl (hrest '+' rfl).1
    · rfl
  · rfl
  · rfl

theorem not_sign_of_spellsLetter {c : Char} (h : SpellsLetter 'i' c) :
    (c ≠ '+' ∧ c ≠ '-') ∧ isBlank c = false := by
  rcases h with h | ⟨_, rfl | rfl⟩
  · exact forall_ascii
      (p := fun c => c.toLower = 'i' → (c ≠ '+' ∧ c ≠ '-') ∧ isBlank c = false) (by decide)
      (toNat_lt_of_toLower (h ▸ by decide)) h
  · decide
  · decide

theorem fails_leading {cell : String} :
    Fails (leading cell) ↔
      ∃ word, takeInfinity? (takeSign (trimLeft cell.toList)).2 = some word ∧ ¬ IsAscii word := by
  have hascii : ∀ word : List Char, (word.all fun c => c.toNat < 128) = true ↔ IsAscii word := by
    simp [IsAscii]
  simp only [leading]
  cases takeInfinity? (takeSign (trimLeft cell.toList)).2 with
  | none => simp
  | some word =>
    by_cases hword : IsAscii word
    · simp [(hascii word).2 hword, hword]
    · simp [mt (hascii word).1 hword, hword]

/-- Reading the number at the start of a cell fails exactly for a dotted infinity. -/
theorem fails_leading_iff {cell : String} : Fails (leading cell) ↔ IsDottedInfinity cell := by
  rw [fails_leading]
  constructor
  · rintro ⟨word, htake, hword⟩
    obtain ⟨hspells, rest, hrest⟩ := takeInfinity?_eq_some_iff.1 htake
    obtain ⟨sign, hsign, hbody, -⟩ := exists_takeSign (trimLeft cell.toList)
    refine ⟨cell.toList.takeWhile isBlank, sign, word, rest, List.all_takeWhile, hsign, hspells,
      (not_isAscii_iff hspells).1 hword, ?_⟩
    rw [hrest, ← hbody]
    exact List.takeWhile_append_dropWhile.symm
  · rintro ⟨w, sign, word, rest, hw, hsign, hspells, hdotted, hcell⟩
    have hhead : ∀ c ∈ (word ++ rest).head?, (c ≠ '+' ∧ c ≠ '-') ∧ isBlank c = false := by
      obtain ⟨c, word, hc, -, rfl⟩ := List.forall₂_cons_left_iff.1 hspells
      simpa using not_sign_of_spellsLetter hc
    have hstart : ∀ c ∈ (sign ++ (word ++ rest)).head?, isBlank c = false := by
      rcases hsign with rfl | rfl | rfl
      · exact fun c hc => (hhead c hc).2
      · simp [isBlank]
      · simp [isBlank]
    have hbody : trimLeft cell.toList = sign ++ (word ++ rest) := by
      rw [hcell, trimLeft_append hw, trimLeft_eq_self hstart]
    refine ⟨word, ?_, (not_isAscii_iff hspells).2 hdotted⟩
    rw [hbody, takeSign_append hsign fun c hc => (hhead c hc).1]
    exact takeInfinity?_eq_some_iff.2 ⟨hspells, List.prefix_append word rest⟩

end TableTalk.Query

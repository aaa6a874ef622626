import TableTalk.Text.Blank
import TableTalk.Text.Digit
import TableTalk.Text.Lower
import TableTalk.Text.Word

/-!
# ASCII text and white space

Among the ASCII characters the classes of white space, word characters and digits are settled by
looking at all 128 of them. Lower case maps each of them on its own and keeps its class. White space
beyond ASCII is looked at in the same way: no character of it stands in a word.
-/

namespace TableTalk.Text

def IsAscii (cs : List Char) : Prop :=
  ∀ c ∈ cs, c.toNat < 128

instance (cs : List Char) : Decidable (IsAscii cs) :=
  decidable_of_iff ((cs.all fun c => c.toNat < 128) = true) (by simp [IsAscii])

/-- What holds of the 128 characters holds of each of them. -/
theorem forall_ascii {p : Char → Prop} (h : ∀ n : Fin 128, p (Char.ofNat n)) {c : Char}
    (hc : c.toNat < 128) : p c := by
  have hn := h ⟨c.toNat, hc⟩
  rwa [Char.ofNat_toNat] at hn

theorem toNat_lt_of_val_le {c d : Char} (hd : d.toNat < 128) (h : c.val ≤ d.val) :
    c.toNat < 128 :=
  Nat.lt_of_le_of_lt (UInt32.le_iff_toNat_le.1 h) hd

theorem toNat_lt_of_isWordAscii {c : Char} (h : isWordAscii c = true) : c.toNat < 128 := by
  rw [isWordAscii, Bool.or_eq_true] at h
  rcases h with h | h
  · rcases Bool.or_eq_true_iff.1 (show (c.isAlpha || c.isDigit) = true from h) with halpha | hdigit
    · rcases Bool.or_eq_true_iff.1 (show (c.isUpper || c.isLower) = true from halpha) with
        hupper | hlower
      · have hrange : 'A'.val ≤ c.val ∧ c.val ≤ 'Z'.val := of_decide_eq_true hupper
        exact toNat_lt_of_val_le (by decide) hrange.2
      · have hz : c.val ≤ 'z'.val := of_decide_eq_true (Bool.and_eq_true_iff.1 hlower).2
        exact toNat_lt_of_val_le (by decide) hz
    · have hnine : c.val ≤ '9'.val := of_decide_eq_true (Bool.and_eq_true_iff.1 hdigit).2
      exact toNat_lt_of_val_le (by decide) hnine
  · rw [eq_of_beq h]
    decide

theorem isWord_of_isWordAscii {c : Char} (h : isWordAscii c = true) : isWord c = true := by
  rw [isWord_of_ascii (toNat_lt_of_isWordAscii h), h]

theorem isBlank_of_isWordAscii {c : Char} (h : isWordAscii c = true) : isBlank c = false :=
  forall_ascii (p := fun c => isWordAscii c = true → isBlank c = false) (by decide)
    (toNat_lt_of_isWordAscii h) h

theorem isBlank_of_all {cs : List Char} (h : cs.all isWordAscii = true) :
    ∀ c ∈ cs, isBlank c = false :=
  fun c hc => isBlank_of_isWordAscii (List.all_eq_true.1 h c hc)

def blankCodes : List Nat :=
  [9, 10, 11, 12, 13, 28, 29, 30, 31, 32, 0x85, 0xA0, 0x1680, 0x2000, 0x2001, 0x2002, 0x2003,
    0x2004, 0x2005, 0x2006, 0x2007, 0x2008, 0x2009, 0x200A, 0x2028, 0x2029, 0x202F, 0x205F, 0x3000]

/-- What holds of the 29 characters of white space holds of each of them. -/
theorem forall_blank {p : Char → Prop} (h : ∀ n ∈ blankCodes, p (Char.ofNat n)) {c : Char}
    (hc : isBlank c = true) : p c := by
  have hcode : c.toNat ∈ blankCodes := by
    simp only [isBlank, Bool.or_eq_true, Bool.and_eq_true, decide_eq_true_eq, beq_iff_eq] at hc
    simp only [blankCodes, List.mem_cons, List.not_mem_nil, or_false]
    omega
  have hn := h c.toNat hcode
  rwa [Char.ofNat_toNat] at hn

theorem isWord_eq_false_of_isBlank {c : Char} (h : isBlank c = true) : isWord c = false :=
  forall_blank (p := fun c => isWord c = false) (by decide +kernel) h

theorem isDigit_eq_false_of_isBlank {c : Char} (h : isBlank c = true) : isDigit c = false :=
  forall_blank (p := fun c => isDigit c = false) (by decide +kernel) h

theorem toLower_of_isBlank {c : Char} (hc : c.toNat < 128) (h : isBlank c = true) :
    c.toLower = c :=
  forall_ascii (p := fun c => isBlank c = true → c.toLower = c) (by decide) hc h

theorem toLower_toLower {c : Char} (hc : c.toNat < 128) : c.toLower.toLower = c.toLower :=
  forall_ascii (p := fun c => c.toLower.toLower = c.toLower) (by decide) hc

theorem toNat_toLower_lt {c : Char} (hc : c.toNat < 128) : c.toLower.toNat < 128 :=
  forall_ascii (p := fun c => c.toLower.toNat < 128) (by decide) hc

theorem toLower_of_not_ascii {c : Char} (hc : ¬ c.toNat < 128) : c.toLower = c := by
  have hrange : ¬ (c.val ≥ 'A'.val ∧ c.val ≤ 'Z'.val) :=
    fun ⟨_, hz⟩ => hc (toNat_lt_of_val_le (by decide) hz)
  exact dif_neg hrange

theorem toNat_lt_of_toLower {c : Char} (h : c.toLower.toNat < 128) : c.toNat < 128 := by
  by_cases hc : c.toNat < 128
  · exact hc
  · rwa [toLower_of_not_ascii hc] at h

/-- A text whose lower-case form is ASCII is ASCII itself. -/
theorem isAscii_of_map_toLower {cs : List Char} (h : IsAscii (cs.map Char.toLower)) :
    IsAscii cs :=
  fun _ hmem => toNat_lt_of_toLower (h _ (List.mem_map_of_mem hmem))

theorem IsAscii.append {a b : List Char} (ha : IsAscii a) (hb : IsAscii b) : IsAscii (a ++ b) := by
  intro c hc
  rcases List.mem_append.1 hc with hc | hc
  · exact ha c hc
  · exact hb c hc

theorem lowerChars_of_isAscii {cs : List Char} (h : IsAscii cs) :
    lowerChars cs = cs.map Char.toLower :=
  lowerAfter_ascii [] h

end TableTalk.Text

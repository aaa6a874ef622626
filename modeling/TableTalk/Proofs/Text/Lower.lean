import TableTalk.Proofs.Text.Ascii

/-!
# Lower case of texts put together from parts

The lower-case form of a text is that of its parts one after another, unless a capital sigma can see
a letter across a cut. Lower case changes nothing in a text that is in lower case already, and it
brings in no ASCII characters but letters.
-/

namespace TableTalk.Text

/-- Whether a cased letter is the first thing in a text that is not passed over. -/
def reachesCased (cs : List Char) : Bool :=
  (cs.dropWhile isCaseIgnorable).head?.any isCased

theorem endsWord_eq (before after : List Char) :
    endsWord before after = (reachesCased before && !reachesCased after) := by
  unfold endsWord reachesCased
  cases before.dropWhile isCaseIgnorable with
  | nil => rfl
  | cons b _ => cases after.dropWhile isCaseIgnorable <;> rfl

theorem reachesCased_append (a : List Char) {b : List Char} (hb : reachesCased b = false) :
    reachesCased (a ++ b) = reachesCased a := by
  unfold reachesCased at hb ⊢
  rw [List.dropWhile_append]
  cases h : a.dropWhile isCaseIgnorable with
  | nil => simpa using hb
  | cons c rest => rfl

theorem lowerAfter_append (before a : List Char) {b : List Char} (hb : reachesCased b = false) :
    lowerAfter before (a ++ b) = lowerAfter before a ++ lowerAfter (a.reverse ++ before) b := by
  induction a generalizing before with
  | nil => rfl
  | cons c a ih =>
    rw [List.cons_append, lowerAfter, lowerAfter, ih, endsWord_eq, endsWord_eq,
      reachesCased_append a hb, List.append_assoc, List.reverse_cons, List.append_assoc]
    rfl

theorem lowerAfter_append_left (u : List Char) {before : List Char}
    (hbefore : reachesCased before = false) (cs : List Char) :
    lowerAfter (u ++ before) cs = lowerAfter u cs := by
  induction cs generalizing u with
  | nil => rfl
  | cons c cs ih =>
    rw [lowerAfter, lowerAfter, endsWord_eq, endsWord_eq, reachesCased_append u hbefore,
      ← List.cons_append, ih]

theorem lowerAfter_ascii_append (before : List Char) {a : List Char} (ha : IsAscii a)
    (b : List Char) :
    lowerAfter before (a ++ b) = a.map Char.toLower ++ lowerAfter (a.reverse ++ before) b := by
  induction a generalizing before with
  | nil => rfl
  | cons c a ih =>
    have hc : c.toNat < 128 := ha c List.mem_cons_self
    have hsigma : c ≠ 'Σ' := by
      rintro rfl
      exact absurd hc (by decide)
    have htail : IsAscii a := fun d hd => ha d (List.mem_cons_of_mem c hd)
    rw [List.cons_append, lowerAfter, if_neg hsigma, lowerChar, if_pos hc, ih _ htail,
      List.reverse_cons, List.append_assoc]
    rfl

/-- ASCII text in front that ends in no letter is put into lower case on its own. -/
theorem lowerChars_ascii_append {a : List Char} (ha : IsAscii a)
    (hcut : reachesCased a.reverse = false) (b : List Char) :
    lowerChars (a ++ b) = a.map Char.toLower ++ lowerChars b := by
  rw [lowerChars, lowerAfter_ascii_append [] ha, List.append_nil, ← List.nil_append a.reverse,
    lowerAfter_append_left [] hcut, lowerChars]

/-- ASCII text behind that starts with no letter is put into lower case on its own. -/
theorem lowerChars_append_ascii (a : List Char) {b : List Char} (hb : IsAscii b)
    (hcut : reachesCased b = false) : lowerChars (a ++ b) = lowerChars a ++ b.map Char.toLower := by
  rw [lowerChars, lowerAfter_append [] a hcut, lowerAfter_ascii _ hb, lowerChars]

def IsLowered (c : Char) : Prop :=
  lowerChar c = [c] ∧ c ≠ 'Σ'

theorem lowerAfter_of_isLowered (before : List Char) {cs : List Char} (h : ∀ c ∈ cs, IsLowered c) :
    lowerAfter before cs = cs := by
  induction cs generalizing before with
  | nil => rfl
  | cons c cs ih =>
    obtain ⟨hc, hsigma⟩ := h c List.mem_cons_self
    rw [lowerAfter, if_neg hsigma, hc, ih _ fun d hd => h d (List.mem_cons_of_mem c hd)]
    rfl

def runMaps (n : Nat) : Nat × Nat × Nat × Int → Bool
  | (first, last, step, _) => first ≤ n && n ≤ last && (n - first) % step == 0

theorem lowerChar_of_le {c : Char} (hc : 128 ≤ c.toNat) (hdotted : c.toNat ≠ 0x130) :
    lowerChar c =
      match lowerRuns.find? (runMaps c.toNat) with
      | some (_, _, _, shift) => [Char.ofNat (c.toNat + shift).toNat]
      | none => [c] := by
  rw [lowerChar, if_neg (Nat.not_lt.2 hc), if_neg hdotted]
  rfl

theorem isLowered_of_find?_eq_none {c : Char} (hc : 128 ≤ c.toNat) (hdotted : c.toNat ≠ 0x130)
    (hnone : lowerRuns.find? (runMaps c.toNat) = none) : IsLowered c := by
  refine ⟨?_, ?_⟩
  · rw [lowerChar_of_le hc hdotted, hnone]
  · rintro rfl
    exact absurd hnone (by decide +kernel)

theorem isLowered_toLower {c : Char} (hc : c.toNat < 128) : IsLowered c.toLower := by
  have hlow : c.toLower.toNat < 128 := toNat_toLower_lt hc
  refine ⟨by rw [lowerChar, if_pos hlow, toLower_toLower hc], ?_⟩
  intro hsigma
  rw [hsigma] at hlow
  exact absurd hlow (by decide)

/-- Whether code points from `lo` to `hi`, every second one if `isSparse`, are mapped by no run. A
run may have its code points between them if it has every second one too. -/
def runMisses (lo hi : Nat) (isSparse : Bool) : Nat × Nat × Nat × Int → Bool
  | (first, last, step, _) =>
    Nat.blt hi first || (Nat.blt last lo ||
      (isSparse && (Nat.beq step 2 && Nat.beq ((lo + first) % 2) 1)))

/-- Whether the images of a run are beyond ASCII, or the letter k for the sign for kelvin, and no
run maps them. -/
def runSettles : Nat × Nat × Nat × Int → Bool
  | (first, last, step, shift) =>
    let lo := (first + shift).toNat
    let hi := (last + shift).toNat
    (Nat.blt 127 lo || (Nat.beq lo 107 && Nat.beq hi 107)) &&
      (Nat.blt hi 0x130 || (Nat.blt 0x130 lo && (Nat.blt hi 0xD800 ||
        (Nat.blt 0xDFFF lo && Nat.blt hi 0x110000)))) &&
      lowerRuns.all (runMisses lo hi (Nat.beq step 2 || Nat.beq lo hi))

theorem runSettles_of_mem : ∀ run ∈ lowerRuns, runSettles run = true :=
  List.all_eq_true.1 (by decide +kernel)

theorem runMaps_of_runMisses {lo hi m : Nat} {isSparse : Bool} {run : Nat × Nat × Nat × Int}
    (h : runMisses lo hi isSparse run = true) (hlo : lo ≤ m) (hhi : m ≤ hi)
    (hsparse : isSparse = true → (m - lo) % 2 = 0) : runMaps m run = false := by
  obtain ⟨first, last, step, shift⟩ := run
  simp only [runMisses, Bool.or_eq_true, Bool.and_eq_true, Nat.blt_eq, Nat.beq_eq] at h
  rw [Bool.eq_false_iff]
  intro hmaps
  simp only [runMaps, Bool.and_eq_true, decide_eq_true_eq, beq_iff_eq] at hmaps
  obtain ⟨⟨hfirst, hlast⟩, hstep⟩ := hmaps
  rcases h with h | h | ⟨hs, rfl, hodd⟩
  · omega
  · omega
  · have heven := hsparse hs
    omega

theorem isLowered_image {run : Nat × Nat × Nat × Int} (hrun : run ∈ lowerRuns) {n : Nat}
    (hmaps : runMaps n run = true) {d : Char} (hd : d = Char.ofNat (n + run.2.2.2).toNat) :
    IsLowered d ∧ (d.toNat < 128 → d = 'k') := by
  have hsettles := runSettles_of_mem run hrun
  obtain ⟨first, last, step, shift⟩ := run
  simp only [runMaps, Bool.and_eq_true, decide_eq_true_eq, beq_iff_eq] at hmaps
  simp only [runSettles, Bool.and_eq_true, Bool.or_eq_true, Nat.blt_eq, Nat.beq_eq] at hsettles
  obtain ⟨⟨hfirst, hlast⟩, hstep⟩ := hmaps
  obtain ⟨⟨hascii, hvalid⟩, hmisses⟩ := hsettles
  have hsparse : (Nat.beq step 2 || Nat.beq (first + shift).toNat (last + shift).toNat) = true →
      ((n + shift).toNat - (first + shift).toNat) % 2 = 0 := by
    simp only [Bool.or_eq_true, Nat.beq_eq]
    rintro (rfl | h) <;> omega
  have hnone : ∀ r ∈ lowerRuns, runMaps (n + shift).toNat r = false := fun r hr =>
    runMaps_of_runMisses (List.all_eq_true.1 hmisses r hr) (by omega) (by omega) hsparse
  have htoNat : d.toNat = (n + shift).toNat := by
    have hchar : (n + shift).toNat.isValidChar := by
      simp only [Nat.isValidChar]
      omega
    rw [hd, Char.ofNat, dif_pos hchar]
    exact UInt32.toNat_ofNatLT
  rw [← htoNat] at hnone
  by_cases hlow : d.toNat < 128
  · have hk : d = 'k' := by
      apply Char.toNat_inj.1
      have hcode : 'k'.toNat = 107 := rfl
      omega
    subst hk
    exact ⟨⟨by decide, by decide⟩, fun _ => rfl⟩
  · have hfind : lowerRuns.find? (runMaps d.toNat) = none :=
      List.find?_eq_none.2 fun r hr => by simp [hnone r hr]
    exact ⟨isLowered_of_find?_eq_none (Nat.not_lt.1 hlow) (by omega) hfind,
      fun h => absurd h hlow⟩

/-- What a character becomes in lower case is in lower case, and is ASCII for ASCII only, unless it
is a letter. -/
theorem isLowered_of_mem_lowerChar {c d : Char} (h : d ∈ lowerChar c) :
    IsLowered d ∧ (d.toNat < 128 → d.isAlpha = false → d = c) := by
  by_cases hascii : c.toNat < 128
  · rw [lowerChar, if_pos hascii, List.mem_singleton] at h
    subst h
    refine ⟨isLowered_toLower hascii, fun _ => ?_⟩
    exact forall_ascii (p := fun c => c.toLower.isAlpha = false → c.toLower = c) (by decide)
      hascii
  · by_cases hdotted : c.toNat = 0x130
    · rw [lowerChar, if_neg hascii, if_pos hdotted] at h
      rw [List.mem_cons, List.mem_singleton] at h
      rcases h with rfl | rfl
      · exact ⟨⟨by decide, by decide⟩, fun _ h => absurd h (by decide)⟩
      · exact ⟨⟨by decide +kernel, by decide⟩, fun h => absurd h (by decide)⟩
    · have hle : 128 ≤ c.toNat := Nat.not_lt.1 hascii
      have hchar := lowerChar_of_le hle hdotted
      cases hfind : lowerRuns.find? (runMaps c.toNat) with
      | none =>
        rw [hfind] at hchar
        rw [hchar, List.mem_singleton] at h
        subst h
        exact ⟨isLowered_of_find?_eq_none hle hdotted hfind, fun _ _ => rfl⟩
      | some run =>
        rw [hfind] at hchar
        rw [hchar, List.mem_singleton] at h
        obtain ⟨hlowered, hk⟩ := isLowered_image (List.mem_of_find?_eq_some hfind)
          (List.find?_some hfind) h
        refine ⟨hlowered, fun hlow halpha => ?_⟩
        rw [hk hlow] at halpha
        exact absurd halpha (by decide)

theorem isLowered_of_mem_lowerAfter {before cs : List Char} {d : Char}
    (h : d ∈ lowerAfter before cs) :
    IsLowered d ∧ (d.toNat < 128 → d.isAlpha = false → d ∈ cs) := by
  induction cs generalizing before with
  | nil => exact absurd h List.not_mem_nil
  | cons c cs ih =>
    rw [lowerAfter, List.mem_append] at h
    rcases h with h | h
    · by_cases hsigma : c = 'Σ'
      · rw [if_pos hsigma, List.mem_singleton] at h
        subst h
        split
        · exact ⟨⟨by decide +kernel, by decide⟩, fun h => absurd h (by decide)⟩
        · exact ⟨⟨by decide +kernel, by decide⟩, fun h => absurd h (by decide)⟩
      · rw [if_neg hsigma] at h
        obtain ⟨hlowered, hsame⟩ := isLowered_of_mem_lowerChar h
        exact ⟨hlowered, fun hlow halpha => hsame hlow halpha ▸ List.mem_cons_self⟩
    · obtain ⟨hlowered, hmem⟩ := ih h
      exact ⟨hlowered, fun hlow halpha => List.mem_cons_of_mem c (hmem hlow halpha)⟩

/-- A text whose characters are all in lower case is left as it is. -/
theorem lowerChars_of_isLowered {cs : List Char} (h : ∀ c ∈ cs, IsLowered c) :
    lowerChars cs = cs :=
  lowerAfter_of_isLowered [] h

theorem isLowered_of_mem_lowerChars {cs : List Char} {d : Char} (h : d ∈ lowerChars cs) :
    IsLowered d :=
  (isLowered_of_mem_lowerAfter h).1

/-- Lower case brings in no ASCII characters other than letters. -/
theorem mem_of_mem_lowerChars {cs : List Char} {d : Char} (h : d ∈ lowerChars cs)
    (hd : d.toNat < 128) (halpha : d.isAlpha = false) : d ∈ cs :=
  (isLowered_of_mem_lowerAfter h).2 hd halpha

theorem lowerChars_lowerChars (cs : List Char) : lowerChars (lowerChars cs) = lowerChars cs :=
  lowerChars_of_isLowered fun _ => isLowered_of_mem_lowerChars

theorem lower_lower (s : String) : lower (lower s) = lower s := by
  rw [lower, lower, String.toList_ofList, lowerChars_lowerChars]

end TableTalk.Text

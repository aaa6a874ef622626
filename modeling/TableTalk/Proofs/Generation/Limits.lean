import TableTalk.Proofs.Generation.Rules
import TableTalk.Proofs.Query.Refusal

/-!
# Limits in the statements of the rules

The statements of the standard rules can be read as queries: if the table is named by an identifier,
no limit in them has more digits than a whole number may have.
-/

namespace TableTalk.Generation

open Text Query

structure IsIdentifier (name : String) : Prop where
  start : ∃ c ∈ name.toList.head?, isDigit c = false
  plain : ∀ c ∈ name.toList, isWordAscii c = true

/-- Digits behind white space stand in the last part of a text if the first part has no digits and
the second one has no white space and starts with no digit. -/
theorem length_le_of_infix {before name after digits : List Char} {blank : Char}
    (hbefore : ∀ c ∈ before, isDigit c = false) (hname : ∀ c ∈ name, isBlank c = false)
    (hstart : ∃ c ∈ name.head?, isDigit c = false) (hblank : isBlank blank = true)
    (hdigits : ∀ d ∈ digits, isDigit d = true)
    (h : blank :: digits <:+: before ++ (name ++ after)) :
    digits.length ≤ after.countP isDigit := by
  have hinside (hsub : digits.Sublist after) : digits.length ≤ after.countP isDigit := by
    rw [← List.countP_eq_length.2 hdigits]
    exact hsub.countP_le
  obtain ⟨c, name, rfl⟩ : ∃ c rest, name = c :: rest := by
    cases name with
    | nil => simp at hstart
    | cons c rest => exact ⟨c, rest, rfl⟩
  have hfirst : isDigit c = false := by simpa using hstart
  have hne : blank ≠ c := by
    rintro rfl
    rw [hname _ List.mem_cons_self] at hblank
    cases hblank
  have hnot (hmem : blank ∈ c :: name) : False := by
    rw [hname blank hmem] at hblank
    cases hblank
  obtain ⟨s, u, h⟩ := h
  rw [List.append_assoc] at h
  rcases List.append_eq_append_iff.1 h with ⟨first, hfront, hrest⟩ | ⟨skipped, -, hrest⟩
  · -- The white space stands in the first part, and no digit can follow it.
    rcases List.cons_eq_append_iff.1 hrest with ⟨-, hhead⟩ | ⟨between, rfl, htail⟩
    · exact (hnot (by rw [(List.cons.inj hhead).1]; exact List.mem_cons_self)).elim
    · cases digits with
      | nil => exact Nat.zero_le _
      | cons d digits =>
        have hd : isDigit d = true := hdigits d List.mem_cons_self
        rcases List.cons_eq_append_iff.1 htail with ⟨-, hhead⟩ | ⟨between, rfl, -⟩
        · rw [← (List.cons.inj hhead).1, hfirst] at hd
          cases hd
        · rw [hbefore d (by simp [hfront])] at hd
          cases hd
  · rcases List.append_eq_append_iff.1 hrest with ⟨more, -, rfl⟩ | ⟨more, hmore, hrest⟩
    · have hdigits : digits <:+: more ++ (blank :: digits ++ u) := ⟨more ++ [blank], u, by simp⟩
      exact hinside hdigits.sublist
    · rcases List.cons_eq_append_iff.1 hrest with ⟨-, rfl⟩ | ⟨more, rfl, -⟩
      · exact hinside (.cons _ (List.sublist_append_left _ _))
      · exact (hnot (by rw [hmore]; simp)).elim

/-- A text with an identifier between parts of which the first has no digits has no limit with more
digits than there are in the last part. -/
theorem length_le_of_isFirstLimit {before name after : String} (hname : IsIdentifier name)
    (hbefore : IsAscii before.toList) (hnone : before.toList.any isDigit = false)
    (hafter : IsAscii after.toList) {digits : List Char}
    (h : IsFirstLimit digits (normalize (before ++ name ++ after))) :
    digits.length ≤ after.toList.countP isDigit := by
  have hplain : IsAscii name.toList := fun c hc => toNat_lt_of_isWordAscii (hname.plain c hc)
  have htext : lowerChars (before ++ name ++ after).toList =
      before.toList.map Char.toLower ++
        (name.toList.map Char.toLower ++ after.toList.map Char.toLower) := by
    rw [String.toList_append, String.toList_append, lowerChars_of_isAscii
      ((hbefore.append hplain).append hafter), List.map_append, List.map_append,
      List.append_assoc]
  have hdigit {c : Char} (hc : c.toNat < 128) : isDigit c.toLower = isDigit c :=
    forall_ascii (p := fun c => isDigit c.toLower = isDigit c) (by decide) hc
  have hblank {c : Char} (hc : c.toNat < 128) : isBlank c.toLower = isBlank c :=
    forall_ascii (p := fun c => isBlank c.toLower = isBlank c) (by decide) hc
  obtain ⟨rest, hsuffix, ⟨-, hdigits, w, more, hw, -, rfl⟩, -⟩ := h
  obtain ⟨gap, blank, rfl⟩ : ∃ gap blank, w = gap ++ [blank] :=
    ⟨w.dropLast, w.getLast hw.1, (List.dropLast_append_getLast hw.1).symm⟩
  have hinfix : blank :: digits <:+:
      lowerChars (before ++ name ++ after).toList := by
    refine List.IsInfix.trans ⟨limitWord ++ gap, more, ?_⟩
      (hsuffix.isInfix.trans (infix_trimChars _))
    simp
  rw [htext] at hinfix
  have hcount : (after.toList.map Char.toLower).countP isDigit = after.toList.countP isDigit := by
    rw [List.countP_map]
    exact List.countP_congr fun c hc => by rw [Function.comp_apply, hdigit (hafter c hc)]
  rw [← hcount]
  refine length_le_of_infix ?_ ?_ ?_ (List.all_eq_true.1 hw.2 blank (by simp)) hdigits hinfix
  · rintro _ hmem
    obtain ⟨c, hc, rfl⟩ := List.mem_map.1 hmem
    rw [hdigit (hbefore c hc)]
    exact Bool.not_eq_true _ ▸ List.any_eq_false.1 hnone c hc
  · rintro _ hmem
    obtain ⟨c, hc, rfl⟩ := List.mem_map.1 hmem
    rw [hblank (hplain c hc), isBlank_of_isWordAscii (hname.plain c hc)]
  · obtain ⟨c, hc, hfirst⟩ := hname.start
    refine ⟨c.toLower, by simpa using ⟨c, by simpa using hc, rfl⟩, ?_⟩
    rw [hdigit (hplain c (List.mem_of_mem_head? hc)), hfirst]

/-- No statement of the standard rules has a limit that cannot be read. -/
theorem not_hasHugeLimit_standard {table : String} (htable : IsIdentifier table)
    {sides : String × String} (hsides : sides ∈ RuleBook.standardSides) :
    ¬ HasHugeLimit (sides.1 ++ table ++ sides.2) := by
  rintro ⟨digits, hfirst, hhuge⟩
  have hparts : ∀ sides ∈ RuleBook.standardSides, IsAscii sides.1.toList ∧
      sides.1.toList.any isDigit = false ∧ IsAscii sides.2.toList ∧
        sides.2.toList.countP isDigit ≤ digitLimit := by
    decide
  obtain ⟨hbefore, hnone, hafter, hfew⟩ := hparts sides hsides
  have hlength := length_le_of_isFirstLimit htable hbefore hnone hafter hfirst
  omega

end TableTalk.Generation

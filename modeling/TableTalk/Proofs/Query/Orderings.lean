import TableTalk.Proofs.Query.Cast
import TableTalk.Proofs.Query.Passing
import TableTalk.Proofs.Text.Numeral

/-!
# The ordering and the limit of a canonical query

After `order by` stands either a name, which no bracket follows, or a cast, whose name is the sort
column. The direction is the word after that, if it is one; the word `limit` is none. The digits
of a limit reach to the end of the query.
-/

namespace TableTalk.Query

open Text

def Closing (rest : List Char) : Prop :=
  rest = [] ∨ ∃ w t, Piece.gap.Admits w ∧ rest = w ++ (limitWord ++ t)

namespace Closing

variable {rest : List Char}

theorem harmless (h : Closing rest) : Harmless rest := by
  rcases h with rfl | ⟨w, t, hw, rfl⟩
  · exact harmless_nil
  · exact harmless_gap hw (by decide) (by decide) _

theorem afterBlanks?_cases (h : Closing rest) :
    afterBlanks? rest = none ∨ ∃ t, afterBlanks? rest = some (limitWord ++ t) := by
  rcases h with rfl | ⟨w, t, hw, rfl⟩
  · exact Or.inl rfl
  · exact Or.inr ⟨t, afterBlanks?_gap hw (by decide) _⟩

theorem isDescending (h : Closing rest) : isDescending rest = false := by
  rcases h.afterBlanks?_cases with hnone | ⟨t, ht⟩
  · rw [Query.isDescending, hnone]
  · rw [Query.isDescending, ht]
    rfl

theorem skipBlanks_head (h : Closing rest) : ∀ c ∈ (skipBlanks rest).head?, c ≠ '(' := by
  rcases h with rfl | ⟨w, t, hw, rfl⟩
  · simp [skipBlanks]
  · have hskip : skipBlanks (w ++ (limitWord ++ t)) = limitWord ++ t :=
      skipBlanks_room hw.2 (by decide) _
    rw [hskip]
    simp [limitWord]

end Closing

theorem isDescending_direction {s : Sorting} {direction rest : List Char}
    (hd : Spells (s.directionPieces.map Piece.lower) direction) (hrest : Closing rest) :
    isDescending (direction ++ rest) = decide (s.direction = some .descending) := by
  rcases spells_direction hd with ⟨hs, rfl⟩ | ⟨w, hw, ⟨hs, rfl⟩ | ⟨hs, rfl⟩⟩
  · rw [hs]
    exact hrest.isDescending
  · have hafter : afterBlanks? (w ++ (ascWord ++ rest)) = some (ascWord ++ rest) :=
      afterBlanks?_gap hw (by decide) _
    rw [List.append_assoc, isDescending, hafter, hs]
    simp only [startsWith_append]
    rfl
  · have hafter : afterBlanks? (w ++ (descWord ++ rest)) = some (descWord ++ rest) :=
      afterBlanks?_gap hw (by decide) _
    have hasc : startsWith ascWord (descWord ++ rest) = false :=
      startsWith_eq_false fun h => absurd (List.cons_prefix_cons.1 h).1 (by decide)
    rw [List.append_assoc, isDescending, hafter, hs]
    simp only [startsWith_append, hasc]
    rfl

theorem direction_head {s : Sorting} {direction rest : List Char}
    (hd : Spells (s.directionPieces.map Piece.lower) direction) (hrest : Closing rest) :
    ∀ c ∈ (skipBlanks (direction ++ rest)).head?, c ≠ '(' := by
  rcases spells_direction hd with ⟨_, rfl⟩ | ⟨w, hw, ⟨_, rfl⟩ | ⟨_, rfl⟩⟩
  · exact hrest.skipBlanks_head
  · have hskip : skipBlanks (w ++ (ascWord ++ rest)) = ascWord ++ rest :=
      skipBlanks_room hw.2 (by decide) _
    rw [List.append_assoc, hskip]
    simp [ascWord]
  · have hskip : skipBlanks (w ++ (descWord ++ rest)) = descWord ++ rest :=
      skipBlanks_room hw.2 (by decide) _
    rw [List.append_assoc, hskip]
    simp [descWord]

theorem IsName.isWordText {x : List Char} (hx : IsName x) : IsWordText x :=
  ⟨hx.ne_nil, fun c hc => isWord_of_isWordAscii (hx.isWordAscii c hc)⟩

/-- A name that no bracket follows is no cast, also if it starts with the keyword for one. -/
theorem castColumn?_name {x rest : List Char} (hx : IsName x)
    (hrest : ∀ c ∈ rest.head?, isWord c = false)
    (hopen : ∀ c ∈ (skipBlanks rest).head?, c ≠ '(') : castColumn? (x ++ rest) = none := by
  have hnone : ((dropStart? castWord (x ++ rest)).map skipBlanks).bind (dropStart? ['(']) =
      none := by
    by_cases hcast : castWord <+: x ++ rest
    -- What follows the keyword is the rest of the name or, if that is empty, of the query.
    · obtain ⟨y, rfl⟩ := keyword_isPrefix (by decide) hrest hcast
      rw [List.append_assoc, dropStart?_append, Option.map_some, Option.bind_some]
      apply dropStart?_eq_none
      intro hbracket
      obtain ⟨t, ht⟩ := hbracket
      have hhead : (skipBlanks (y ++ rest)).head? = some '(' := by rw [← ht]; rfl
      cases y with
      | nil => exact hopen '(' hhead rfl
      | cons c y =>
        have hc : Text.isWordAscii c = true := hx.isWordAscii c (by simp)
        rw [List.cons_append, skipBlanks_of_head (by simpa using isBlank_of_isWordAscii hc),
          List.head?_cons] at hhead
        rw [Option.some.inj hhead] at hc
        exact absurd hc (by decide)
    · rw [dropStart?_eq_none hcast]
      rfl
  rw [castColumn?, hnone]

theorem isGap_of_admits {w : List Char} (h : Piece.gap.Admits w) : IsGap w :=
  ⟨h.1, h.2.1⟩

theorem isCast_of_spells {s : Sorting} {type : Name} (hcast : s.castTo = some type)
    {column : List Char} (hc : Spells (s.columnPieces.map Piece.lower) column) :
    IsCast s.column.lowerChars column := by
  obtain ⟨w₁, w₂, w₃, w₄, w₅, hw₁, hw₂, hw₃, hw₄, hw₅, rfl⟩ := spells_castColumn hcast hc
  have htype : IsCastType (w₄ ++ (type.lowerChars ++ (w₅ ++ [')']))) :=
    ⟨w₄, type.lowerChars, [], w₅, isGap_of_admits hw₄, type.isName_lowerChars.isWordText,
      Or.inl rfl, hw₅.1, rfl⟩
  exact ⟨w₁, w₂, w₃, _, hw₁.1, hw₂.1, isGap_of_admits hw₃, s.column.isName_lowerChars.isWordText,
    htype, rfl⟩

theorem sortColumn_head {s : Sorting} {column : List Char}
    (hc : Spells (s.columnPieces.map Piece.lower) column) :
    ∃ c t, column = c :: t ∧ isBlank c = false := by
  cases hcast : s.castTo with
  | none =>
    obtain ⟨c, x, hx, _, hblank⟩ := s.column.isName_lowerChars.exists_cons
    exact ⟨c, x, by rw [(spells_plainColumn hcast).1 hc, hx], hblank⟩
  | some type =>
    obtain ⟨w₁, w₂, w₃, w₄, w₅, _, _, _, _, _, rfl⟩ := spells_castColumn hcast hc
    exact ⟨'c', _, rfl, by decide⟩

/-- The sort column is found in both forms, with what follows it. -/
theorem sortColumn_or {s : Sorting} {column rest : List Char}
    (hc : Spells (s.columnPieces.map Piece.lower) column)
    (hrest : ∀ c ∈ rest.head?, isWord c = false)
    (hopen : ∀ c ∈ (skipBlanks rest).head?, c ≠ '(') :
    (castColumn? (column ++ rest)).or (takeWord? (column ++ rest)) =
      some (s.column.lowerChars, rest) := by
  cases hcast : s.castTo with
  | none =>
    rw [(spells_plainColumn hcast).1 hc, castColumn?_name s.column.isName_lowerChars hrest hopen,
      Option.none_or, takeWord?_append s.column.isName_lowerChars hrest]
  | some type => rw [castColumn?_append (isCast_of_spells hcast hc), Option.some_or]

theorem orderingHere_sorting {s : Sorting} {w w' column direction rest : List Char}
    (hw : Piece.gap.Admits w) (hw' : Piece.gap.Admits w')
    (hc : Spells (s.columnPieces.map Piece.lower) column)
    (hd : Spells (s.directionPieces.map Piece.lower) direction) (hrest : Closing rest) :
    orderingHere (orderWord ++ (w ++ (byWord ++ (w' ++ (column ++ (direction ++ rest)))))) =
      some (s.column.lowerChars, decide (s.direction = some .descending)) := by
  have hafter : afterBlanks? (w' ++ (column ++ (direction ++ rest))) =
      some (column ++ (direction ++ rest)) := by
    obtain ⟨c, t, rfl, hblank⟩ := sortColumn_head hc
    exact afterBlanks?_gap hw' hblank _
  have hcolumn := sortColumn_or hc (harmless_direction hd hrest.harmless).head
    (direction_head hd hrest)
  rw [orderingHere, afterOrderBy?_append hw, Option.bind_some, hafter]
  simp only [hcolumn, Option.map_some, isDescending_direction hd hrest]

theorem limitHere_digits (n : Decimal) {w : List Char} (hw : IsGap w) :
    limitHere (limitWord ++ (w ++ n.digits)) = some n.digits := by
  have hdigit : ∀ c ∈ n.digits, isDigit c = true := by
    intro c hc
    rw [isDigit, digit?_of_isDigit (n.isDigit_of_mem hc)]
    rfl
  exact limitHere_eq_some_iff.2 ⟨n.ne_nil, hdigit, w, [], hw, by simp, by simp⟩

theorem limitOf_digits (n : Decimal) :
    limitOf n.digits = .ok (Nat.ofDigitChars 10 n.digits 0) := by
  rw [limitOf, if_pos n.length_le, numeral_eq_ofDigitChars fun _ => n.isDigit_of_mem]

end TableTalk.Query

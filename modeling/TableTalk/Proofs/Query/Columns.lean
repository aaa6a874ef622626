import TableTalk.Proofs.Query.Spelling

/-!
# The columns of a canonical query

The text selected by a canonical query in lower case is its list of columns: no name starts with
`from`, so the white space before the keyword is the first that `from` follows. The columns named
by it are the names, without the white space around them.
-/

namespace TableTalk.Query

open Text

theorem fromAhead_of_not_blank (c : Char) (rest : List Char) (hc : isBlank c = false) :
    fromAhead (c :: rest) = false := by
  rw [fromAhead, afterBlanks?_of_head (by simpa using hc)]
  rfl

theorem fromAhead_gap {w : List Char} (hw : Piece.gap.Admits w) {d : Char}
    (hd : isBlank d = false) (rest : List Char) :
    fromAhead (w ++ d :: rest) = startsWith fromWord (d :: rest) := by
  rw [fromAhead, afterBlanks?_gap hw hd]
  rfl

theorem startsWith_from_name {x rest : List Char} (hx : IsName x)
    (hrest : ∀ c ∈ rest.head?, isWord c = false) : startsWith fromWord (x ++ rest) = false := by
  apply startsWith_eq_false
  exact fun hprefix => hx.not_from (keyword_isPrefix (by decide) hrest hprefix)

/-- A spelling of names starts with the first of them, after which the name does not go on. -/
theorem spells_namePieces_front {first : Name} {others : List Name} {p : List Char}
    (hp : Spells ((namePieces first others).map Piece.lower) p) (rest : List Char)
    (hrest : ∀ c ∈ rest.head?, isWord c = false) :
    ∃ t, p ++ rest = first.lowerChars ++ t ∧ ∀ c ∈ t.head?, isWord c = false := by
  cases others with
  | nil => exact ⟨rest, by rw [spells_namePieces_nil.1 hp], hrest⟩
  | cons next others =>
    obtain ⟨w, w', p', hw, _, _, rfl⟩ := spells_namePieces_cons hp
    refine ⟨w ++ ',' :: (w' ++ (p' ++ rest)), by simp, ?_⟩
    exact head?_room hw (by decide) _

theorem upTo?_fromAhead_names {first : Name} {others : List Name} {p rest : List Char}
    (hp : Spells ((namePieces first others).map Piece.lower) p)
    (hhead : ∀ c ∈ rest.head?, isWord c = false) (hrest : upTo? fromAhead rest = some []) :
    upTo? fromAhead (p ++ rest) = some p := by
  induction others generalizing first p with
  | nil =>
    have hblank := first.isName_lowerChars.isBlank_eq_false
    rw [spells_namePieces_nil.1 hp, upTo?_word fromAhead_of_not_blank hblank hrest,
      List.append_nil]
  | cons next others ih =>
    obtain ⟨w, w', p', hw, hw', hp', rfl⟩ := spells_namePieces_cons hp
    have hnext : upTo? fromAhead (w' ++ (p' ++ rest)) = some (w' ++ p') := by
      apply upTo?_room _ hw' (ih hp')
      intro v hne hv
      obtain ⟨t, ht, hword⟩ := spells_namePieces_front hp' rest hhead
      obtain ⟨c, y, hcy, _, hc⟩ := next.isName_lowerChars.exists_cons
      rw [ht, hcy, List.cons_append, fromAhead_gap ⟨hne, hv⟩ hc, ← List.cons_append, ← hcy]
      exact startsWith_from_name next.isName_lowerChars hword
    have hcomma : upTo? fromAhead (',' :: (w' ++ (p' ++ rest))) = some (',' :: (w' ++ p')) :=
      upTo?_cons (fromAhead_of_not_blank ',' _ (by decide)) hnext
    have hroom : upTo? fromAhead (w ++ ',' :: (w' ++ (p' ++ rest))) =
        some (w ++ ',' :: (w' ++ p')) := by
      apply upTo?_room _ hw hcomma
      intro v hne hv
      rw [fromAhead_gap ⟨hne, hv⟩ (by decide)]
      rfl
    simp only [List.append_assoc, List.cons_append]
    exact upTo?_word fromAhead_of_not_blank first.isName.isBlank_eq_false hroom

theorem upTo?_fromAhead_columns {columns : Option (Name × List Name)} {p rest : List Char}
    (hp : Spells ((columnPieces columns).map Piece.lower) p)
    (hhead : ∀ c ∈ rest.head?, isWord c = false) (hrest : upTo? fromAhead rest = some []) :
    upTo? fromAhead (p ++ rest) = some p := by
  cases columns with
  | none =>
    rw [spells_star.1 hp]
    exact upTo?_cons (fromAhead_of_not_blank '*' _ (by decide)) hrest
  | some names => exact upTo?_fromAhead_names hp hhead hrest

theorem columns_head {columns : Option (Name × List Name)} {p : List Char}
    (hp : Spells ((columnPieces columns).map Piece.lower) p) :
    ∃ c t, p = c :: t ∧ isBlank c = false := by
  cases columns with
  | none => exact ⟨'*', [], spells_star.1 hp, by decide⟩
  | some names =>
    obtain ⟨t, ht, _⟩ := spells_namePieces_front hp [] (by simp)
    obtain ⟨c, y, hcy, _, hc⟩ := names.1.isName_lowerChars.exists_cons
    rw [List.append_nil, hcy] at ht
    exact ⟨c, y ++ t, ht, hc⟩

/-- The text selected by a canonical query is its list of columns. -/
theorem selected_head {q : CanonicalQuery} {h : List Char}
    (hh : Spells (q.headPieces.map Piece.lower) h) :
    ∃ p, Spells ((columnPieces q.columns).map Piece.lower) p ∧
      ∀ rest, selected (h ++ rest) = some p := by
  obtain ⟨w₁, p, w₂, w₃, hw₁, hw₂, _, hp, rfl⟩ := spells_head hh
  refine ⟨p, hp, fun rest => findFirst_of_some ?_⟩
  let after := fromWord ++ (w₃ ++ (q.table.lowerChars ++ rest))
  have hstop : fromAhead (w₂ ++ after) = true := by
    have hf : after = 'f' :: (['r', 'o', 'm'] ++ (w₃ ++ (q.table.lowerChars ++ rest))) := rfl
    rw [hf, fromAhead_gap hw₂ (by decide)]
    exact startsWith_append fromWord _
  have hcolumns : upTo? fromAhead (p ++ (w₂ ++ after)) = some p :=
    upTo?_fromAhead_columns hp (head?_gap hw₂ _) (upTo?_of_stop hstop)
  have hbody : skipBlanks (w₁ ++ (p ++ (w₂ ++ after))) = p ++ (w₂ ++ after) := by
    obtain ⟨c, t, rfl, hc⟩ := columns_head hp
    exact skipBlanks_room hw₁.2 hc _
  have hgap : (w₁ ++ (p ++ (w₂ ++ after))).length - (p ++ (w₂ ++ after)).length ≠ 0 := by
    have hpos : 0 < w₁.length := List.length_pos_iff.2 hw₁.1
    rw [List.length_append]
    omega
  simp only [List.append_assoc]
  rw [selectedHere, dropStart?_append]
  simp only [hbody, if_neg hgap, hcolumns, after] at *

theorem splitOn_names {first : Name} {others : List Name} {w p : List Char} (hw : IsRoom w)
    (hp : Spells ((namePieces first others).map Piece.lower) p) :
    ((splitOn ',' (w ++ p)).map fun token => String.ofList (trimChars token)) =
      (first :: others).map Name.lowered := by
  induction others generalizing first w p with
  | nil =>
    have hnone : ',' ∉ w ++ first.lowerChars := by
      rw [List.mem_append, not_or]
      exact ⟨hw.notMem (by decide), first.isName.notMem (by decide)⟩
    have htrim : trimChars (w ++ first.lowerChars) = first.lowerChars := by
      have h := trimChars_name first.isName_lowerChars hw isRoom_nil
      rwa [List.append_nil] at h
    rw [spells_namePieces_nil.1 hp, splitOn_eq, List.splitOn_eq_singleton hnone]
    simp only [List.map_cons, List.map_nil, htrim, Name.lowered_eq]
  | cons next others ih =>
    obtain ⟨v, v', p', hv, hv', hp', rfl⟩ := spells_namePieces_cons hp
    have hnone : ',' ∉ w ++ (first.lowerChars ++ v) := by
      simp only [List.mem_append, not_or]
      exact ⟨hw.notMem (by decide), first.isName.notMem (by decide), hv.notMem (by decide)⟩
    have hsplit : splitOn ',' (w ++ (first.lowerChars ++ (v ++ ',' :: (v' ++ p')))) =
        (w ++ (first.lowerChars ++ v)) :: splitOn ',' (v' ++ p') := by
      have h := List.splitOn_append_cons_self_of_not_mem hnone (v' ++ p')
      simp only [List.append_assoc] at h
      rw [splitOn_eq, h, splitOn_eq]
    rw [hsplit, List.map_cons, ih hv' hp', trimChars_name first.isName_lowerChars hw hv,
      ← Name.lowered_eq]
    rfl

theorem trimRight_isPrefix (cs : List Char) : trimRight cs <+: cs := by
  have h : cs.reverse.dropWhile isBlank <:+ cs.reverse := List.dropWhile_suffix _
  simpa [trimRight] using List.reverse_prefix.2 h

theorem projectionOf_columns {columns : Option (Name × List Name)} {p : List Char}
    (hp : Spells ((columnPieces columns).map Piece.lower) p) :
    projectionOf p = columns.map fun (first, others) => (first :: others).map Name.lowered := by
  cases columns with
  | none =>
    rw [spells_star.1 hp]
    decide
  | some names =>
    have hstar : trimChars p ≠ ['*'] := by
      intro htrim
      obtain ⟨t, ht, _⟩ := spells_namePieces_front hp [] (by simp)
      obtain ⟨c, y, hcy, hword, hc⟩ := names.1.isName_lowerChars.exists_cons
      rw [List.append_nil, hcy, List.cons_append] at ht
      rw [ht, trimChars, trimLeft_eq_self (by simpa using hc)] at htrim
      have hprefix : ['*'] <+: c :: (y ++ t) := htrim ▸ trimRight_isPrefix _
      rw [← (List.cons_prefix_cons.1 hprefix).1] at hword
      exact absurd hword (by decide)
    rw [projectionOf, if_neg hstar]
    exact congrArg some (splitOn_names isRoom_nil hp)

end TableTalk.Query

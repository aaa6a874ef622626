import TableTalk.Proofs.Query.Canonical
import TableTalk.Proofs.Query.Keyword

/-!
# Spellings in lower case

A spelling is taken apart piece by piece. Putting a text into lower case gives a spelling of the
same pieces in lower case, in which every keyword stands as it is. All pieces of a canonical query
are ASCII, so lower case maps its spellings character by character.

White space in ASCII holds no word characters, so it ends a name before it, and a name after it is
reached by skipping it. A name is trimmed and taken from the front of a text as a whole.
-/

namespace TableTalk.Query

open Text

theorem spells_nil_iff {cs : List Char} : Spells [] cs ↔ cs = [] := by
  simp [Spells, eq_comm]

theorem spells_cons_iff {p : Piece} {pieces : List Piece} {cs : List Char} :
    Spells (p :: pieces) cs ↔ ∃ a b, p.Admits a ∧ Spells pieces b ∧ cs = a ++ b := by
  constructor
  · rintro ⟨parts, hparts, rfl⟩
    obtain ⟨a, others, ha, hothers, rfl⟩ := List.forall₂_cons_left_iff.1 hparts
    exact ⟨a, others.flatten, ha, ⟨others, hothers, rfl⟩, rfl⟩
  · rintro ⟨a, b, ha, ⟨others, hothers, rfl⟩, rfl⟩
    exact ⟨a :: others, .cons ha hothers, rfl⟩

theorem spells_append_iff {pieces more : List Piece} {cs : List Char} :
    Spells (pieces ++ more) cs ↔ ∃ a b, Spells pieces a ∧ Spells more b ∧ cs = a ++ b := by
  induction pieces generalizing cs with
  | nil => simp [spells_nil_iff]
  | cons p pieces ih =>
    rw [List.cons_append, spells_cons_iff]
    constructor
    · rintro ⟨a, _, ha, hrest, rfl⟩
      obtain ⟨b, c, hb, hc, rfl⟩ := ih.1 hrest
      exact ⟨a ++ b, c, spells_cons_iff.2 ⟨a, b, ha, hb, rfl⟩, hc, (List.append_assoc a b c).symm⟩
    · rintro ⟨_, c, hab, hc, rfl⟩
      obtain ⟨a, b, ha, hb, rfl⟩ := spells_cons_iff.1 hab
      exact ⟨a, b ++ c, ha, ih.2 ⟨b, c, hb, hc, rfl⟩, List.append_assoc a b c⟩

namespace Piece

def lower : Piece → Piece
  | keyword word => verbatim word
  | verbatim cs => verbatim (cs.map Char.toLower)
  | gap => gap
  | room => room

def IsAscii : Piece → Prop
  | keyword word => Text.IsAscii word
  | verbatim cs => Text.IsAscii cs
  | gap => True
  | room => True

theorem map_toLower_of_isRoom {w : List Char} (h : IsRoom w) : w.map Char.toLower = w := by
  have hid : ∀ c ∈ w, c.toLower = id c := fun c hc =>
    toLower_of_isBlank (h.2 c hc) (List.all_eq_true.1 h.1 c hc)
  rw [List.map_congr_left hid, List.map_id]

theorem Admits.lower {p : Piece} {cs : List Char} (h : p.Admits cs) :
    p.lower.Admits (cs.map Char.toLower) := by
  cases p with
  | keyword word => exact h
  | verbatim text => exact congrArg _ h
  | gap =>
    obtain ⟨hne, hroom⟩ := h
    refine ⟨by simpa using hne, ?_⟩
    rwa [map_toLower_of_isRoom hroom]
  | room => exact (map_toLower_of_isRoom h).symm ▸ h

theorem Admits.isAscii {p : Piece} {cs : List Char} (h : p.Admits cs) (hp : p.IsAscii) :
    Text.IsAscii cs := by
  cases p with
  | keyword word => exact isAscii_of_map_toLower (by rw [show _ = word from h]; exact hp)
  | verbatim text => exact (show cs = text from h) ▸ hp
  | gap => exact h.2.2
  | room => exact h.2

end Piece

theorem Spells.lower {pieces : List Piece} {cs : List Char} (h : Spells pieces cs) :
    Spells (pieces.map Piece.lower) (cs.map Char.toLower) := by
  induction pieces generalizing cs with
  | nil => simpa [spells_nil_iff] using h
  | cons p pieces ih =>
    obtain ⟨a, b, ha, hb, rfl⟩ := spells_cons_iff.1 h
    rw [List.map_append]
    exact spells_cons_iff.2 ⟨_, _, ha.lower, ih hb, rfl⟩

theorem Spells.isAscii {pieces : List Piece} {cs : List Char} (h : Spells pieces cs)
    (hp : ∀ p ∈ pieces, p.IsAscii) : IsAscii cs := by
  induction pieces generalizing cs with
  | nil =>
    rw [spells_nil_iff.1 h]
    exact fun c hc => absurd hc List.not_mem_nil
  | cons p pieces ih =>
    obtain ⟨a, b, ha, hb, rfl⟩ := spells_cons_iff.1 h
    exact (ha.isAscii (hp p List.mem_cons_self)).append
      (ih hb fun p hmem => hp p (List.mem_cons_of_mem _ hmem))

theorem Name.isAscii (x : Name) : IsAscii x.chars := by
  apply isAscii_of_map_toLower
  exact fun c hc => toNat_lt_of_isWordAscii (x.isName.isWordAscii c hc)

theorem isAscii_namePieces (first : Name) (others : List Name) :
    ∀ p ∈ namePieces first others, p.IsAscii := by
  induction others generalizing first with
  | nil => simpa [namePieces, Piece.IsAscii] using first.isAscii
  | cons next others ih =>
    have hcomma : IsAscii [','] := by decide
    simpa [namePieces, Piece.IsAscii, hcomma, first.isAscii] using ih next

theorem isAscii_columnPieces (columns : Option (Name × List Name)) :
    ∀ p ∈ columnPieces columns, p.IsAscii := by
  cases columns with
  | none =>
    have hstar : IsAscii ['*'] := by decide
    simpa [columnPieces, Piece.IsAscii] using hstar
  | some names => exact isAscii_namePieces names.1 names.2

theorem Comparison.isAscii_pieces (c : Comparison) : ∀ p ∈ c.pieces, p.IsAscii := by
  have hwhere : IsAscii whereWord := by decide
  have hsign : IsAscii ['='] := by decide
  have hlike : IsAscii likeWord := by decide
  have hpercent : IsAscii ['%'] := by decide
  have hquote : IsAscii [c.quote] := by
    rcases c.quote_eq with h | h <;> rw [h] <;> decide
  cases hop : c.operator with
  | equals =>
    have hvalue : IsAscii (c.quote :: (c.value ++ [c.quote])) :=
      hquote.append (c.isAscii.append hquote)
    simp [Comparison.pieces, Comparison.clausePieces, hop, Piece.IsAscii, hwhere, hsign,
      c.column.isAscii, hvalue]
  | like =>
    have hvalue : IsAscii (c.quote :: '%' :: (c.value ++ ['%', c.quote])) :=
      hquote.append (hpercent.append (c.isAscii.append (hpercent.append hquote)))
    simp [Comparison.pieces, Comparison.clausePieces, hop, Piece.IsAscii, hwhere, hlike,
      c.column.isAscii, hvalue]

theorem Sorting.isAscii_pieces (s : Sorting) : ∀ p ∈ s.pieces, p.IsAscii := by
  have hwords : ∀ k ∈ [orderWord, byWord, castWord, asWord, ascWord, descWord, ['('], [')']],
      IsAscii k := by decide
  simp only [List.mem_cons, List.not_mem_nil, or_false, forall_eq_or_imp, forall_eq] at hwords
  obtain ⟨horder, hby, hcast, has, hasc, hdesc, hopen, hclose⟩ := hwords
  have hcolumn : ∀ p ∈ s.columnPieces, p.IsAscii := by
    cases htype : s.castTo with
    | none => simpa [Sorting.columnPieces, htype, Piece.IsAscii] using s.column.isAscii
    | some type =>
      simp [Sorting.columnPieces, htype, Piece.IsAscii, hcast, hopen, has, hclose,
        s.column.isAscii, type.isAscii]
  have hdirection : ∀ p ∈ s.directionPieces, p.IsAscii := by
    rcases hd : s.direction with _ | d
    · simp [Sorting.directionPieces, hd]
    · cases d <;> simp [Sorting.directionPieces, hd, Piece.IsAscii, hasc, hdesc]
  intro p hp
  simp only [Sorting.pieces, List.mem_append] at hp
  rcases hp with hp | hp | hp
  · revert p
    simp [Piece.IsAscii, horder, hby]
  · exact hcolumn p hp
  · exact hdirection p hp

theorem Decimal.isAscii_pieces (n : Decimal) : ∀ p ∈ n.pieces, p.IsAscii := by
  have hlimit : IsAscii limitWord := by decide
  have hdigits : IsAscii n.digits := fun c hc =>
    toNat_lt_of_isWordAscii (n.isWordAscii_of_mem c hc)
  simp [Decimal.pieces, Piece.IsAscii, hlimit, hdigits]

theorem isAscii_elim {α : Type} {clause : Option α} {pieces : α → List Piece}
    (h : ∀ a, ∀ p ∈ pieces a, p.IsAscii) : ∀ p ∈ clause.elim [] pieces, p.IsAscii := by
  cases clause with
  | none => simp
  | some a => exact h a

theorem CanonicalQuery.isAscii_pieces (q : CanonicalQuery) : ∀ p ∈ q.pieces, p.IsAscii := by
  have hselect : IsAscii selectWord := by decide
  have hfrom : IsAscii fromWord := by decide
  intro p hp
  simp only [CanonicalQuery.pieces, CanonicalQuery.headPieces, List.mem_append] at hp
  rcases hp with (hp | hp | hp) | hp | hp | hp
  · revert p
    simp [Piece.IsAscii, hselect]
  · exact isAscii_columnPieces q.columns p hp
  · revert p
    simp [Piece.IsAscii, hfrom, q.table.isAscii]
  · exact isAscii_elim Comparison.isAscii_pieces p hp
  · exact isAscii_elim Sorting.isAscii_pieces p hp
  · exact isAscii_elim Decimal.isAscii_pieces p hp

theorem spells_star {p : List Char} :
    Spells ((columnPieces none).map Piece.lower) p ↔ p = ['*'] := by
  simp [columnPieces, Piece.lower, spells_cons_iff, spells_nil_iff, Piece.Admits]

theorem spells_namePieces_nil {first : Name} {p : List Char} :
    Spells ((namePieces first []).map Piece.lower) p ↔ p = first.lowerChars := by
  simp [namePieces, Piece.lower, spells_cons_iff, spells_nil_iff, Piece.Admits, Name.lowerChars]

theorem spells_namePieces_cons {first next : Name} {others : List Name} {p : List Char}
    (h : Spells ((namePieces first (next :: others)).map Piece.lower) p) :
    ∃ w w' p', IsRoom w ∧ IsRoom w' ∧ Spells ((namePieces next others).map Piece.lower) p' ∧
      p = first.lowerChars ++ (w ++ ',' :: (w' ++ p')) := by
  simp only [namePieces, List.map_cons, Piece.lower, spells_cons_iff] at h
  obtain ⟨_, _, rfl, ⟨w, _, hw, ⟨_, _, rfl, ⟨w', p', hw', hp', rfl⟩, rfl⟩, rfl⟩, rfl⟩ := h
  exact ⟨w, w', p', hw, hw', hp', rfl⟩

theorem spells_head {q : CanonicalQuery} {h : List Char}
    (hh : Spells (q.headPieces.map Piece.lower) h) :
    ∃ w₁ p w₂ w₃, Piece.gap.Admits w₁ ∧ Piece.gap.Admits w₂ ∧ Piece.gap.Admits w₃ ∧
      Spells ((columnPieces q.columns).map Piece.lower) p ∧
      h = selectWord ++ (w₁ ++ (p ++ (w₂ ++ (fromWord ++ (w₃ ++ q.table.lowerChars))))) := by
  simp only [CanonicalQuery.headPieces, List.map_append, List.map_cons, List.map_nil, Piece.lower,
    spells_append_iff, spells_cons_iff, spells_nil_iff] at hh
  obtain ⟨_, _, ⟨_, _, rfl, ⟨w₁, _, hw₁, rfl, rfl⟩, rfl⟩,
    ⟨p, _, hp, ⟨w₂, _, hw₂, ⟨_, _, rfl, ⟨w₃, _, hw₃, ⟨_, _, rfl, rfl, rfl⟩, rfl⟩, rfl⟩, rfl⟩, rfl⟩,
    rfl⟩ := hh
  exact ⟨w₁, p, w₂, w₃, hw₁, hw₂, hw₃, hp, by simp [Name.lowerChars]⟩

theorem spells_comparison {c : Comparison} {cs : List Char}
    (h : Spells (c.pieces.map Piece.lower) cs) :
    ∃ w₁ w₂ clause, Piece.gap.Admits w₁ ∧ Piece.gap.Admits w₂ ∧
      Spells (c.clausePieces.map Piece.lower) clause ∧
      cs = w₁ ++ (whereWord ++ (w₂ ++ clause)) := by
  simp only [Comparison.pieces, List.cons_append, List.nil_append, List.map_cons, Piece.lower,
    spells_cons_iff] at h
  obtain ⟨w₁, _, hw₁, ⟨_, _, rfl, ⟨w₂, clause, hw₂, hclause, rfl⟩, rfl⟩, rfl⟩ := h
  exact ⟨w₁, w₂, clause, hw₁, hw₂, hclause, rfl⟩

theorem spells_equals {c : Comparison} (hop : c.operator = .equals) {clause : List Char}
    (h : Spells (c.clausePieces.map Piece.lower) clause) :
    ∃ w w', IsRoom w ∧ IsRoom w' ∧
      clause = c.column.lowerChars ++ (w ++ '=' :: (w' ++
        (c.quote :: (c.value.map Char.toLower ++ [c.quote])))) := by
  simp only [Comparison.clausePieces, hop, List.map_cons, List.map_nil, Piece.lower,
    spells_cons_iff, spells_nil_iff] at h
  obtain ⟨_, _, rfl, ⟨w, _, hw, ⟨_, _, rfl, ⟨w', _, hw', ⟨_, _, rfl, rfl, rfl⟩, rfl⟩, rfl⟩, rfl⟩,
    rfl⟩ := h
  exact ⟨w, w', hw, hw', by simp [Name.lowerChars, c.toLower_quote]⟩

theorem spells_like {c : Comparison} (hop : c.operator = .like) {clause : List Char}
    (h : Spells (c.clausePieces.map Piece.lower) clause) :
    ∃ w w', Piece.gap.Admits w ∧ Piece.gap.Admits w' ∧
      clause = c.column.lowerChars ++ (w ++ (likeWord ++ (w' ++
        (c.quote :: '%' :: (c.value.map Char.toLower ++ ['%', c.quote]))))) := by
  simp only [Comparison.clausePieces, hop, List.map_cons, List.map_nil, Piece.lower,
    spells_cons_iff, spells_nil_iff] at h
  obtain ⟨_, _, rfl, ⟨w, _, hw, ⟨_, _, rfl, ⟨w', _, hw', ⟨_, _, rfl, rfl, rfl⟩, rfl⟩, rfl⟩, rfl⟩,
    rfl⟩ := h
  exact ⟨w, w', hw, hw', by simp [Name.lowerChars, c.toLower_quote]⟩

theorem spells_sorting {s : Sorting} {cs : List Char} (h : Spells (s.pieces.map Piece.lower) cs) :
    ∃ w₁ w₂ w₃ column direction, Piece.gap.Admits w₁ ∧ Piece.gap.Admits w₂ ∧
      Piece.gap.Admits w₃ ∧ Spells (s.columnPieces.map Piece.lower) column ∧
      Spells (s.directionPieces.map Piece.lower) direction ∧
      cs = w₁ ++ (orderWord ++ (w₂ ++ (byWord ++ (w₃ ++ (column ++ direction))))) := by
  simp only [Sorting.pieces, List.cons_append, List.nil_append, List.map_cons, List.map_append,
    Piece.lower, spells_cons_iff, spells_append_iff] at h
  obtain ⟨w₁, _, hw₁, ⟨_, _, rfl, ⟨w₂, _, hw₂, ⟨_, _, rfl, ⟨w₃, _, hw₃,
    ⟨column, direction, hcolumn, hdirection, rfl⟩, rfl⟩, rfl⟩, rfl⟩, rfl⟩, rfl⟩ := h
  exact ⟨w₁, w₂, w₃, column, direction, hw₁, hw₂, hw₃, hcolumn, hdirection, rfl⟩

theorem spells_plainColumn {s : Sorting} (hcast : s.castTo = none) {column : List Char} :
    Spells (s.columnPieces.map Piece.lower) column ↔ column = s.column.lowerChars := by
  simp [Sorting.columnPieces, hcast, Piece.lower, spells_cons_iff, spells_nil_iff, Piece.Admits,
    Name.lowerChars]

theorem spells_castColumn {s : Sorting} {type : Name} (hcast : s.castTo = some type)
    {column : List Char} (h : Spells (s.columnPieces.map Piece.lower) column) :
    ∃ w₁ w₂ w₃ w₄ w₅, IsRoom w₁ ∧ IsRoom w₂ ∧ Piece.gap.Admits w₃ ∧ Piece.gap.Admits w₄ ∧
      IsRoom w₅ ∧ column = castWord ++ (w₁ ++ '(' :: (w₂ ++ (s.column.lowerChars ++ (w₃ ++
        (asWord ++ (w₄ ++ (type.lowerChars ++ (w₅ ++ [')'])))))))) := by
  simp only [Sorting.columnPieces, hcast, List.map_cons, List.map_nil, Piece.lower,
    spells_cons_iff, spells_nil_iff] at h
  obtain ⟨_, _, rfl, ⟨w₁, _, hw₁, ⟨_, _, rfl, ⟨w₂, _, hw₂, ⟨_, _, rfl, ⟨w₃, _, hw₃, ⟨_, _, rfl,
    ⟨w₄, _, hw₄, ⟨_, _, rfl, ⟨w₅, _, hw₅, ⟨_, _, rfl, rfl, rfl⟩, rfl⟩, rfl⟩, rfl⟩, rfl⟩, rfl⟩,
    rfl⟩, rfl⟩, rfl⟩, rfl⟩, rfl⟩ := h
  exact ⟨w₁, w₂, w₃, w₄, w₅, hw₁, hw₂, hw₃, hw₄, hw₅, by simp [Name.lowerChars]⟩

theorem spells_direction {s : Sorting} {direction : List Char}
    (h : Spells (s.directionPieces.map Piece.lower) direction) :
    (s.direction = none ∧ direction = []) ∨
      ∃ w, Piece.gap.Admits w ∧
        ((s.direction = some .ascending ∧ direction = w ++ ascWord) ∨
          (s.direction = some .descending ∧ direction = w ++ descWord)) := by
  cases hd : s.direction with
  | none =>
    simp only [Sorting.directionPieces, hd, List.map_nil, spells_nil_iff] at h
    exact Or.inl ⟨rfl, h⟩
  | some d =>
    right
    cases d <;> simp only [Sorting.directionPieces, hd, List.map_cons, List.map_nil, Piece.lower,
      spells_cons_iff, spells_nil_iff] at h
    · obtain ⟨w, _, hw, ⟨_, _, rfl, rfl, rfl⟩, rfl⟩ := h
      exact ⟨w, hw, Or.inl ⟨rfl, by simp⟩⟩
    · obtain ⟨w, _, hw, ⟨_, _, rfl, rfl, rfl⟩, rfl⟩ := h
      exact ⟨w, hw, Or.inr ⟨rfl, by simp⟩⟩

theorem spells_decimal {n : Decimal} {cs : List Char} (h : Spells (n.pieces.map Piece.lower) cs) :
    ∃ w₁ w₂, Piece.gap.Admits w₁ ∧ Piece.gap.Admits w₂ ∧
      cs = w₁ ++ (limitWord ++ (w₂ ++ n.digits)) := by
  simp only [Decimal.pieces, List.map_cons, List.map_nil, Piece.lower, spells_cons_iff,
    spells_nil_iff] at h
  obtain ⟨w₁, _, hw₁, ⟨_, _, rfl, ⟨w₂, _, hw₂, ⟨_, _, rfl, rfl, rfl⟩, rfl⟩, rfl⟩, rfl⟩ := h
  exact ⟨w₁, w₂, hw₁, hw₂, by simp [n.map_toLower]⟩

theorem isRoom_nil : IsRoom [] := by
  decide

theorem IsRoom.isWord_eq_false {w : List Char} (h : IsRoom w) : ∀ c ∈ w, isWord c = false :=
  fun c hc => isWord_eq_false_of_isBlank (List.all_eq_true.1 h.1 c hc)

theorem IsRoom.notMem {w : List Char} (hw : IsRoom w) {c : Char} (hc : isBlank c = false) :
    c ∉ w := by
  intro hmem
  rw [List.all_eq_true.1 hw.1 c hmem] at hc
  exact absurd hc (by decide)

theorem skipBlanks_room {w : List Char} (hw : IsRoom w) {d : Char} (hd : isBlank d = false)
    (r : List Char) : skipBlanks (w ++ d :: r) = d :: r := by
  rw [skipBlanks_append hw.1, skipBlanks_of_head (by simpa using hd)]

theorem head?_gap {w : List Char} (h : Piece.gap.Admits w) (rest : List Char) :
    ∀ c ∈ (w ++ rest).head?, isWord c = false := by
  obtain ⟨c, w, rfl⟩ := List.exists_cons_of_ne_nil h.1
  simpa using h.2.isWord_eq_false c List.mem_cons_self

theorem head?_room {w : List Char} (h : IsRoom w) {d : Char} (hd : isWord d = false)
    (rest : List Char) : ∀ c ∈ (w ++ d :: rest).head?, isWord c = false := by
  cases w with
  | nil => simpa using hd
  | cons c w => simpa using h.isWord_eq_false c List.mem_cons_self

theorem afterBlanks?_gap {w : List Char} (hw : Piece.gap.Admits w) {d : Char}
    (hd : isBlank d = false) (r : List Char) : afterBlanks? (w ++ d :: r) = some (d :: r) := by
  rw [afterBlanks?_append hw.1 hw.2.1, skipBlanks_of_head (by simpa using hd)]

theorem afterOrderBy?_append {w : List Char} (hw : Piece.gap.Admits w) (rest : List Char) :
    afterOrderBy? (orderWord ++ (w ++ (byWord ++ rest))) = some rest := by
  rw [afterOrderBy?_eq, afterKeyword?_append orderWord hw.1 hw.2.1, Option.bind_some]
  exact dropStart?_append byWord rest

theorem upTo?_room {stop : List Char → Bool} {w rest t : List Char}
    (hstop : ∀ w', w' ≠ [] → IsRoom w' → stop (w' ++ rest) = false) (hw : IsRoom w)
    (hrest : upTo? stop rest = some t) : upTo? stop (w ++ rest) = some (w ++ t) := by
  apply upTo?_append_of_some _ hrest
  intro y hne hy
  have hblank : allBlank y = true :=
    List.all_eq_true.2 fun c hc => List.all_eq_true.1 hw.1 c (hy.subset hc)
  exact hstop y hne ⟨hblank, fun c hc => hw.2 c (hy.subset hc)⟩

theorem IsName.exists_cons {x : List Char} (h : IsName x) :
    ∃ c y, x = c :: y ∧ Text.isWordAscii c = true ∧ isBlank c = false := by
  obtain ⟨c, y, rfl⟩ := List.exists_cons_of_ne_nil h.ne_nil
  have hc := h.isWordAscii c List.mem_cons_self
  exact ⟨c, y, rfl, hc, isBlank_of_isWordAscii hc⟩

theorem IsName.isBlank_eq_false {x : List Char} (h : IsName x) : ∀ c ∈ x, isBlank c = false :=
  fun c hc => isBlank_of_isWordAscii (h.isWordAscii c hc)

theorem IsName.notMem {x : List Char} (hx : IsName x) {c : Char} (hc : Text.isWordAscii c = false) :
    c ∉ x := by
  intro hmem
  rw [hx.isWordAscii c hmem] at hc
  exact absurd hc (by decide)

theorem Name.lowered_eq (x : Name) : x.lowered = String.ofList x.lowerChars := by
  rw [Name.lowered, lower, String.toList_ofList, lowerChars_of_isAscii x.isAscii, Name.lowerChars]

theorem trimChars_name {x w w' : List Char} (hx : IsName x) (hw : IsRoom w) (hw' : IsRoom w') :
    trimChars (w ++ (x ++ w')) = x :=
  trimChars_append hw.1 hw'.1 (fun c hc => hx.isBlank_eq_false c (List.mem_of_head? hc))
    (fun c hc => hx.isBlank_eq_false c (List.mem_of_getLast? hc))

theorem takeWord?_append {x rest : List Char} (hx : IsName x)
    (hrest : ∀ c ∈ rest.head?, isWord c = false) : takeWord? (x ++ rest) = some (x, rest) := by
  have hword : ∀ c ∈ x, isWord c = true := fun c hc => isWord_of_isWordAscii (hx.isWordAscii c hc)
  obtain ⟨c, y, rfl⟩ := List.exists_cons_of_ne_nil hx.ne_nil
  rw [takeWord?, takeWhile_append_of_head hword hrest, dropWhile_append_of_head hword hrest]

theorem Comparison.isWord_quote (c : Comparison) : isWord c.quote = false := by
  rcases c.quote_eq with h | h <;> rw [h] <;> decide

theorem Comparison.isBlank_quote (c : Comparison) : isBlank c.quote = false := by
  rcases c.quote_eq with h | h <;> rw [h] <;> decide

end TableTalk.Query

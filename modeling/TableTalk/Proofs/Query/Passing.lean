import TableTalk.Proofs.Query.Spelling

/-!
# Searches that pass over a clause

In a canonical query in lower case the search for a condition, an ordering or a limit finds nothing
in the clauses of the other kinds. A name may end in a keyword, but what comes after a name never
starts with a digit or with the `b` of `by`, so no clause starts there.
-/

namespace TableTalk.Query

open Text

/-- What may come after a name: it does not go on with the name, and neither a digit nor the letter
`b` stands at its front or after the white space there. -/
structure Harmless (rest : List Char) : Prop where
  head : ∀ c ∈ rest.head?, isWord c = false
  next : ∀ c ∈ (skipBlanks rest).head?, c ≠ 'b' ∧ isDigit c = false

theorem harmless_nil : Harmless [] :=
  ⟨by simp, by simp [skipBlanks]⟩

/-- White space and then a character that starts neither a word, a limit nor a `by`. -/
theorem harmless_room {w : List Char} (hw : IsRoom w) {d : Char} (hblank : isBlank d = false)
    (hword : isWord d = false) (hd : d ≠ 'b' ∧ isDigit d = false) (r : List Char) :
    Harmless (w ++ d :: r) where
  head := head?_room hw hword r
  next := by
    rw [skipBlanks_room hw hblank]
    simpa using hd

theorem harmless_gap {w : List Char} (hw : Piece.gap.Admits w) {d : Char}
    (hblank : isBlank d = false) (hd : d ≠ 'b' ∧ isDigit d = false) (r : List Char) :
    Harmless (w ++ d :: r) where
  head := head?_gap hw _
  next := by
    rw [skipBlanks_room hw.2 hblank]
    simpa using hd

namespace ClauseSearch

variable {α : Type} {word : List Char} {starts : Char → Bool} {look : List Char → Option α}

theorem pass_name (hs : ClauseSearch word starts look) {x rest : List Char} (hx : IsName x)
    (hrest : Harmless rest) : findFirst look (x ++ rest) = findFirst look rest := by
  apply hs.pass_word hx.isWordAscii hrest.head
  intro hend c hc
  have hne : word ≠ whereWord := by
    rintro rfl
    exact hx.not_where hend
  -- No name ends in `where`, and an ordering or a limit goes on with a `b` or a digit.
  obtain ⟨hb, hdigit⟩ := hrest.next c hc
  by_contra hstart
  rcases hs.starts_of_ne hne c (by simpa using hstart) with rfl | h
  · exact hb rfl
  · rw [hdigit] at h
    exact absurd h (by decide)

theorem pass_room (hs : ClauseSearch word starts look) {w : List Char} (hw : IsRoom w)
    (rest : List Char) : findFirst look (w ++ rest) = findFirst look rest :=
  hs.pass_other hw.isWord_eq_false rest

theorem pass_char (hs : ClauseSearch word starts look) {c : Char} (hc : isWord c = false)
    (rest : List Char) : findFirst look (c :: rest) = findFirst look rest :=
  hs.pass_other (a := [c]) (by simpa using hc) rest

theorem pass_fixed (hs : ClauseSearch word starts look) {x rest : List Char}
    (hx : x.all isWordAscii = true) (hend : ¬ word <:+ x)
    (hrest : ∀ c ∈ rest.head?, isWord c = false) :
    findFirst look (x ++ rest) = findFirst look rest :=
  hs.pass_word (List.all_eq_true.1 hx) hrest fun h => absurd h hend

/-- The keyword of a search is none of the words that end in no keyword. -/
theorem not_suffix (hs : ClauseSearch word starts look) {x : List Char}
    (hx : ∀ k ∈ [whereWord, orderWord, limitWord], ¬ k <:+ x) : ¬ word <:+ x :=
  hx word hs.word_mem

theorem not_suffix_of_ne (hs : ClauseSearch word starts look) {k : List Char}
    (hk : k ∈ [whereWord, orderWord, limitWord]) (hne : word ≠ k) : ¬ word <:+ k := by
  have hall : ∀ a ∈ [whereWord, orderWord, limitWord], ∀ b ∈ [whereWord, orderWord, limitWord],
      a ≠ b → ¬ a <:+ b := by decide
  exact hall word hs.word_mem k hk hne

end ClauseSearch

section Clauses

variable {α : Type} {word : List Char} {starts : Char → Bool} {look : List Char → Option α}

theorem pass_names (hs : ClauseSearch word starts look) {first : Name} {others : List Name}
    {p rest : List Char} (hp : Spells ((namePieces first others).map Piece.lower) p)
    (hrest : Harmless rest) : findFirst look (p ++ rest) = findFirst look rest := by
  induction others generalizing first p with
  | nil =>
    rw [spells_namePieces_nil.1 hp]
    exact hs.pass_name first.isName_lowerChars hrest
  | cons next others ih =>
    obtain ⟨w, w', p', hw, hw', hp', rfl⟩ := spells_namePieces_cons hp
    have hcomma : Harmless (w ++ ',' :: (w' ++ (p' ++ rest))) :=
      harmless_room hw (by decide) (by decide) (by decide) _
    simp only [List.append_assoc, List.cons_append]
    rw [hs.pass_name first.isName_lowerChars hcomma, hs.pass_room hw, hs.pass_char (by decide),
      hs.pass_room hw', ih hp']

theorem pass_columns (hs : ClauseSearch word starts look) {columns : Option (Name × List Name)}
    {p rest : List Char} (hp : Spells ((columnPieces columns).map Piece.lower) p)
    (hrest : Harmless rest) : findFirst look (p ++ rest) = findFirst look rest := by
  cases columns with
  | none =>
    rw [spells_star.1 hp]
    exact hs.pass_char (by decide) rest
  | some names => exact pass_names hs hp hrest

theorem pass_head (hs : ClauseSearch word starts look) {q : CanonicalQuery} {h rest : List Char}
    (hh : Spells (q.headPieces.map Piece.lower) h) (hrest : Harmless rest) :
    findFirst look (h ++ rest) = findFirst look rest := by
  obtain ⟨w₁, p, w₂, w₃, hw₁, hw₂, hw₃, hp, rfl⟩ := spells_head hh
  have hfrom : Harmless (w₂ ++ (fromWord ++ (w₃ ++ (q.table.lowerChars ++ rest)))) :=
    harmless_gap hw₂ (by decide) (by decide) _
  simp only [List.append_assoc]
  rw [hs.pass_fixed (by decide) (hs.not_suffix (by decide)) (head?_gap hw₁ _),
    hs.pass_room hw₁.2, pass_columns hs hp hfrom, hs.pass_room hw₂.2,
    hs.pass_fixed (by decide) (hs.not_suffix (by decide)) (head?_gap hw₃ _),
    hs.pass_room hw₃.2, hs.pass_name q.table.isName_lowerChars hrest]

/-- A value is passed over by the searches whose keyword it does not hold. -/
theorem pass_clause (hs : ClauseSearch word starts look) (hword : word ≠ whereWord)
    {c : Comparison} {clause : List Char}
    (hc : Spells (c.clausePieces.map Piece.lower) clause) (rest : List Char) :
    findFirst look (clause ++ rest) = findFirst look rest := by
  have hvalue : ¬ word <:+: c.value.map Char.toLower := by
    have hmem := hs.word_mem
    simp only [List.mem_cons, List.not_mem_nil, or_false] at hmem
    rcases hmem with h | rfl | rfl
    · exact absurd h hword
    · exact c.not_order
    · exact c.not_limit
  cases hop : c.operator with
  | equals =>
    obtain ⟨w, w', hw, hw', rfl⟩ := spells_equals hop hc
    have hsign : Harmless (w ++ '=' :: (w' ++ (c.quote :: (c.value.map Char.toLower ++
        (c.quote :: rest))))) :=
      harmless_room hw (by decide) (by decide) (by decide) _
    simp only [List.append_assoc, List.cons_append, List.nil_append]
    rw [hs.pass_name c.column.isName_lowerChars hsign, hs.pass_room hw, hs.pass_char (by decide),
      hs.pass_room hw', hs.pass_char c.isWord_quote, hs.pass_value hvalue c.isWord_quote,
      hs.pass_char c.isWord_quote]
  | like =>
    obtain ⟨w, w', hw, hw', rfl⟩ := spells_like hop hc
    have hlike : Harmless (w ++ (likeWord ++ (w' ++ (c.quote :: '%' ::
        (c.value.map Char.toLower ++ ('%' :: c.quote :: rest)))))) :=
      harmless_gap hw (by decide) (by decide) _
    simp only [List.append_assoc, List.cons_append, List.nil_append]
    rw [hs.pass_name c.column.isName_lowerChars hlike, hs.pass_room hw.2,
      hs.pass_fixed (by decide) (hs.not_suffix (by decide)) (head?_gap hw' _),
      hs.pass_room hw'.2, hs.pass_char c.isWord_quote, hs.pass_char (by decide),
      hs.pass_value hvalue (by decide), hs.pass_char (by decide), hs.pass_char c.isWord_quote]

theorem pass_comparison (hs : ClauseSearch word starts look) (hword : word ≠ whereWord)
    {c : Comparison} {cs : List Char} (hc : Spells (c.pieces.map Piece.lower) cs)
    (rest : List Char) : findFirst look (cs ++ rest) = findFirst look rest := by
  obtain ⟨w₁, w₂, clause, hw₁, hw₂, hclause, rfl⟩ := spells_comparison hc
  have hend : ¬ word <:+ whereWord := hs.not_suffix_of_ne (by decide) hword
  simp only [List.append_assoc]
  rw [hs.pass_room hw₁.2, hs.pass_fixed (by decide) hend (head?_gap hw₂ _), hs.pass_room hw₂.2,
    pass_clause hs hword hclause]

theorem pass_sortColumn (hs : ClauseSearch word starts look) {s : Sorting} {column rest : List Char}
    (hc : Spells (s.columnPieces.map Piece.lower) column) (hrest : Harmless rest) :
    findFirst look (column ++ rest) = findFirst look rest := by
  cases hcast : s.castTo with
  | none =>
    rw [(spells_plainColumn hcast).1 hc]
    exact hs.pass_name s.column.isName_lowerChars hrest
  | some type =>
    obtain ⟨w₁, w₂, w₃, w₄, w₅, hw₁, hw₂, hw₃, hw₄, hw₅, rfl⟩ := spells_castColumn hcast hc
    have has : Harmless (w₃ ++ (asWord ++ (w₄ ++ (type.lowerChars ++ (w₅ ++ ')' :: rest))))) :=
      harmless_gap hw₃ (by decide) (by decide) _
    have hclose : Harmless (w₅ ++ ')' :: rest) :=
      harmless_room hw₅ (by decide) (by decide) (by decide) _
    simp only [List.append_assoc, List.cons_append, List.nil_append]
    rw [hs.pass_fixed (by decide) (hs.not_suffix (by decide)) (head?_room hw₁ (by decide) _),
      hs.pass_room hw₁, hs.pass_char (by decide), hs.pass_room hw₂,
      hs.pass_name s.column.isName_lowerChars has, hs.pass_room hw₃.2,
      hs.pass_fixed (by decide) (hs.not_suffix (by decide)) (head?_gap hw₄ _),
      hs.pass_room hw₄.2, hs.pass_name type.isName_lowerChars hclose, hs.pass_room hw₅,
      hs.pass_char (by decide)]

theorem pass_direction (hs : ClauseSearch word starts look) {s : Sorting}
    {direction rest : List Char} (hd : Spells (s.directionPieces.map Piece.lower) direction)
    (hrest : Harmless rest) : findFirst look (direction ++ rest) = findFirst look rest := by
  rcases spells_direction hd with ⟨_, rfl⟩ | ⟨w, hw, ⟨_, rfl⟩ | ⟨_, rfl⟩⟩
  · rfl
  · rw [List.append_assoc, hs.pass_room hw.2,
      hs.pass_fixed (by decide) (hs.not_suffix (by decide)) hrest.head]
  · rw [List.append_assoc, hs.pass_room hw.2,
      hs.pass_fixed (by decide) (hs.not_suffix (by decide)) hrest.head]

theorem harmless_direction {s : Sorting} {direction rest : List Char}
    (hd : Spells (s.directionPieces.map Piece.lower) direction) (hrest : Harmless rest) :
    Harmless (direction ++ rest) := by
  rcases spells_direction hd with ⟨_, rfl⟩ | ⟨w, hw, ⟨_, rfl⟩ | ⟨_, rfl⟩⟩
  · exact hrest
  · rw [List.append_assoc]
    exact harmless_gap hw (by decide) (by decide) _
  · rw [List.append_assoc]
    exact harmless_gap hw (by decide) (by decide) _

theorem pass_sorting (hs : ClauseSearch word starts look) (hword : word ≠ orderWord)
    {s : Sorting} {cs rest : List Char} (hc : Spells (s.pieces.map Piece.lower) cs)
    (hrest : Harmless rest) : findFirst look (cs ++ rest) = findFirst look rest := by
  obtain ⟨w₁, w₂, w₃, column, direction, hw₁, hw₂, hw₃, hcolumn, hdirection, rfl⟩ :=
    spells_sorting hc
  have hend : ¬ word <:+ orderWord := hs.not_suffix_of_ne (by decide) hword
  simp only [List.append_assoc]
  rw [hs.pass_room hw₁.2, hs.pass_fixed (by decide) hend (head?_gap hw₂ _), hs.pass_room hw₂.2,
    hs.pass_fixed (by decide) (hs.not_suffix (by decide)) (head?_gap hw₃ _), hs.pass_room hw₃.2,
    pass_sortColumn hs hcolumn (harmless_direction hdirection hrest),
    pass_direction hs hdirection hrest]

theorem pass_decimal (hs : ClauseSearch word starts look) (hword : word ≠ limitWord)
    {n : Decimal} {cs : List Char} (hc : Spells (n.pieces.map Piece.lower) cs) :
    findFirst look cs = findFirst look [] := by
  obtain ⟨w₁, w₂, hw₁, hw₂, rfl⟩ := spells_decimal hc
  have hend : ¬ word <:+ limitWord := hs.not_suffix_of_ne (by decide) hword
  have hdigits : findFirst look (n.digits ++ []) = findFirst look [] :=
    hs.pass_word n.isWordAscii_of_mem (by simp) (by simp [skipBlanks])
  rw [hs.pass_room hw₁.2, hs.pass_fixed (by decide) hend (head?_gap hw₂ _), hs.pass_room hw₂.2,
    ← hdigits, List.append_nil]

end Clauses

end TableTalk.Query

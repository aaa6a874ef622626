import TableTalk.Proofs.Query.Occurrence

/-!
# Casts

A cast of the sort column is told by its text alone: which column it names does not depend on what
follows its closing bracket.
-/

namespace TableTalk.Query

open Text

def IsWordText (x : List Char) : Prop :=
  x ≠ [] ∧ ∀ c ∈ x, isWord c = true

def IsParameters (p : List Char) : Prop :=
  p = [] ∨ ∃ w inner, allBlank w = true ∧ ')' ∉ inner ∧ p = w ++ '(' :: (inner ++ [')'])

def IsCastType (p : List Char) : Prop :=
  ∃ w type parameters w', IsGap w ∧ IsWordText type ∧ IsParameters parameters ∧
    allBlank w' = true ∧ p = w ++ (type ++ (parameters ++ (w' ++ [')'])))

def IsCast (column p : List Char) : Prop :=
  ∃ w₁ w₂ w₃ type, allBlank w₁ = true ∧ allBlank w₂ = true ∧ IsGap w₃ ∧ IsWordText column ∧
    IsCastType type ∧ p = castWord ++ (w₁ ++ '(' :: (w₂ ++ (column ++ (w₃ ++ (asWord ++ type)))))

theorem skipTypeParameters_append {p : List Char} (hp : IsParameters p) {w : List Char}
    (hw : allBlank w = true) (rest : List Char) :
    skipTypeParameters (p ++ (w ++ ')' :: rest)) = w ++ ')' :: rest := by
  rcases hp with rfl | ⟨w', inner, hw', hinner, rfl⟩
  · have hskip : skipBlanks (w ++ ')' :: rest) = ')' :: rest :=
      skipBlanks_append_of_head hw (by simp [isBlank])
    rw [List.nil_append, skipTypeParameters, hskip, dropStart?_eq_none]
    exact fun h => absurd (List.cons_prefix_cons.1 h).1 (by decide)
  · have hskip : skipBlanks (w' ++ '(' :: (inner ++ [')']) ++ (w ++ ')' :: rest)) =
        ['('] ++ (inner ++ ')' :: (w ++ ')' :: rest)) := by
      simp only [List.append_assoc, List.cons_append, List.nil_append]
      exact skipBlanks_append_of_head hw' (by simp [isBlank])
    have hdrop : (inner ++ ')' :: (w ++ ')' :: rest)).dropWhile (· ≠ ')') =
        ')' :: (w ++ ')' :: rest) :=
      dropWhile_append_of_head
        (fun c hc => decide_eq_true fun h => hinner (h ▸ hc)) (by simp)
    rw [skipTypeParameters, hskip, dropStart?_append]
    simp only [hdrop]

theorem exists_skipTypeParameters (cs : List Char) :
    ∃ p, IsParameters p ∧ cs = p ++ skipTypeParameters cs := by
  rw [skipTypeParameters]
  split
  · exact ⟨[], Or.inl rfl, rfl⟩
  · next inner hopen =>
    obtain ⟨w, hw, hcs, -⟩ := exists_skipBlanks cs
    rw [dropStart?_eq_some_iff.1 hopen] at hcs
    split
    · exact ⟨[], Or.inl rfl, rfl⟩
    · next d rest hdrop =>
      obtain ⟨before, hbefore, rfl⟩ := exists_of_dropWhile_ne hdrop
      exact ⟨w ++ '(' :: (before ++ [')']), Or.inr ⟨w, before, hw, hbefore, rfl⟩, by simp [hcs]⟩

theorem afterClosing?_eq_some_iff {cs rest : List Char} :
    afterClosing? cs = some rest ↔ ∃ w, allBlank w = true ∧ cs = w ++ ')' :: rest := by
  rw [afterClosing?, dropStart?_eq_some_iff]
  constructor
  · intro h
    obtain ⟨w, hw, hcs, -⟩ := exists_skipBlanks cs
    exact ⟨w, hw, hcs.trans (congrArg (w ++ ·) h)⟩
  · rintro ⟨w, hw, rfl⟩
    exact skipBlanks_append_of_head hw (by simp [isBlank])

theorem IsWordText.head {x : List Char} (hx : IsWordText x) (rest : List Char) :
    ∀ c ∈ (x ++ rest).head?, isBlank c = false := by
  obtain ⟨c, x, rfl⟩ := List.exists_cons_of_ne_nil hx.1
  simpa using isBlank_eq_false_of_isWord (hx.2 c List.mem_cons_self)

theorem takeWord?_wordText {x rest : List Char} (hx : IsWordText x)
    (hrest : ∀ c ∈ rest.head?, isWord c = false) : takeWord? (x ++ rest) = some (x, rest) :=
  takeWord?_eq_some_iff.2 ⟨hx.1, hx.2, hrest, rfl⟩

theorem head_of_allBlank {w rest : List Char} (hw : allBlank w = true)
    (hrest : ∀ c ∈ rest.head?, isWord c = false) : ∀ c ∈ (w ++ rest).head?, isWord c = false := by
  cases w with
  | nil => exact hrest
  | cons c w =>
    simpa using isWord_eq_false_of_isBlank (List.all_eq_true.1 hw c List.mem_cons_self)

theorem IsGap.head {w : List Char} (hw : IsGap w) (rest : List Char) :
    ∀ c ∈ (w ++ rest).head?, isWord c = false := by
  obtain ⟨c, w, rfl⟩ := List.exists_cons_of_ne_nil hw.1
  simpa using isWord_eq_false_of_isBlank (List.all_eq_true.1 hw.2 c List.mem_cons_self)

theorem IsParameters.head {p rest : List Char} (hp : IsParameters p)
    (hrest : ∀ c ∈ rest.head?, isWord c = false) : ∀ c ∈ (p ++ rest).head?, isWord c = false := by
  rcases hp with rfl | ⟨w, inner, hw, -, rfl⟩
  · exact hrest
  · rw [List.append_assoc]
    exact head_of_allBlank hw (by simp; decide)

theorem castColumn?_append {column p : List Char} (h : IsCast column p) (after : List Char) :
    castColumn? (p ++ after) = some (column, after) := by
  obtain ⟨w₁, w₂, w₃, _, hw₁, hw₂, hw₃, hcolumn, ⟨w₄, type, parameters, w₅, hw₄, htype,
    hparameters, hw₅, rfl⟩, rfl⟩ := h
  have hclose : ∀ c ∈ (w₅ ++ ')' :: after).head?, isWord c = false :=
    head_of_allBlank hw₅ (by simp; decide)
  let typed := type ++ (parameters ++ (w₅ ++ ')' :: after))
  let named := column ++ (w₃ ++ (asWord ++ (w₄ ++ typed)))
  have hopen : ((dropStart? castWord (castWord ++ (w₁ ++ '(' :: (w₂ ++ named)))).map
      skipBlanks).bind (dropStart? ['(']) = some (w₂ ++ named) := by
    rw [dropStart?_append, Option.map_some, skipBlanks_append_of_head hw₁ (by simp; decide),
      Option.bind_some]
    exact dropStart?_append ['('] (w₂ ++ named)
  have hname : takeWord? (skipBlanks (w₂ ++ named)) =
      some (column, w₃ ++ (asWord ++ (w₄ ++ typed))) := by
    rw [skipBlanks_append_of_head hw₂ (hcolumn.head _)]
    exact takeWord?_wordText hcolumn (hw₃.head _)
  have has : afterBlanks? (w₃ ++ (asWord ++ (w₄ ++ typed))) = some (asWord ++ (w₄ ++ typed)) :=
    afterBlanks?_append_of_head hw₃ (by simp [asWord]; decide)
  have hblanks : afterBlanks? (w₄ ++ typed) = some typed :=
    afterBlanks?_append_of_head hw₄ (htype.head _)
  have hword : takeWord? typed = some (type, parameters ++ (w₅ ++ ')' :: after)) :=
    takeWord?_wordText htype (hparameters.head hclose)
  have hdone : afterClosing? (skipTypeParameters (parameters ++ (w₅ ++ ')' :: after))) =
      some after := by
    rw [skipTypeParameters_append hparameters hw₅]
    exact afterClosing?_eq_some_iff.2 ⟨w₅, hw₅, rfl⟩
  simp only [List.append_assoc, List.cons_append, List.nil_append]
  rw [castColumn?, hopen]
  simp only [hname, has, Option.bind_some, dropStart?_append, hblanks, hword, hdone,
    Option.map_some]

theorem exists_isCast {cs column after : List Char} (h : castColumn? cs = some (column, after)) :
    ∃ p, IsCast column p ∧ cs = p ++ after := by
  unfold castColumn? at h
  split at h
  · cases h
  · next inner hopen =>
    split at h
    · cases h
    · next column' rest hname =>
      split at h
      · cases h
      · next type rest' htype =>
        obtain ⟨after', hclosing, hpair⟩ := Option.map_eq_some_iff.1 h
        obtain ⟨rfl, rfl⟩ := Prod.mk.inj hpair
        obtain ⟨_, hcast, hbracket⟩ := Option.bind_eq_some_iff.1 hopen
        obtain ⟨t, hword, rfl⟩ := Option.map_eq_some_iff.1 hcast
        obtain ⟨_, hafter, htaken⟩ := Option.bind_eq_some_iff.1 htype
        obtain ⟨_, hkeyword, hblanks⟩ := Option.bind_eq_some_iff.1 hafter
        obtain ⟨_, hgap, has⟩ := Option.bind_eq_some_iff.1 hkeyword
        obtain ⟨w₁, hw₁, ht, -⟩ := exists_skipBlanks t
        obtain ⟨w₂, hw₂, hinner, -⟩ := exists_skipBlanks inner
        obtain ⟨hne, hcolumn, -, hnamed⟩ := takeWord?_eq_some_iff.1 hname
        obtain ⟨w₃, hw₃, rfl, -⟩ := afterBlanks?_eq_some_iff.1 hgap
        obtain ⟨w₄, hw₄, rfl, -⟩ := afterBlanks?_eq_some_iff.1 hblanks
        obtain ⟨htypeNe, htypeWord, -, rfl⟩ := takeWord?_eq_some_iff.1 htaken
        obtain ⟨parameters, hparameters, hrest⟩ := exists_skipTypeParameters rest'
        obtain ⟨w₅, hw₅, hclose⟩ := afterClosing?_eq_some_iff.1 hclosing
        rw [dropStart?_eq_some_iff] at hword hbracket has
        refine ⟨_, ⟨w₁, w₂, w₃, _, hw₁, hw₂, hw₃, ⟨hne, hcolumn⟩, ⟨w₄, type, parameters, w₅, hw₄,
          ⟨htypeNe, htypeWord⟩, hparameters, hw₅, rfl⟩, rfl⟩, ?_⟩
        rw [hword, ht, hbracket, hinner, hnamed, has, hrest, hclose]
        simp

theorem IsCast.exists_eq {column p : List Char} (h : IsCast column p) :
    ∃ front, p = front ++ [')'] := by
  obtain ⟨w₁, w₂, w₃, _, _, _, _, _, ⟨w₄, type, parameters, w₅, _, _, _, _, rfl⟩, rfl⟩ := h
  exact ⟨castWord ++ (w₁ ++ '(' :: (w₂ ++ (column ++ (w₃ ++ (asWord ++
    (w₄ ++ (type ++ (parameters ++ w₅)))))))), by simp⟩

/-- A cast is found at the front of a text exactly if one stands there. -/
theorem castColumn?_eq_some_iff {cs column after : List Char} :
    castColumn? cs = some (column, after) ↔ ∃ p, IsCast column p ∧ cs = p ++ after := by
  constructor
  · exact exists_isCast
  · rintro ⟨p, hp, rfl⟩
    exact castColumn?_append hp after

end TableTalk.Query

import TableTalk.Proofs.Json.Scalar

/-!
# JSON values read back

A value that some JSON text denotes is written as a text that denotes the same value. In such a
value whole numbers are not too long, doubles are rounded and the fields of a record have different
names.
-/

namespace TableTalk.Json

open Double Text

/-- A value that a JSON text can denote. -/
inductive IsValue : Json → Prop
  | null : IsValue .null
  | bool (b : Bool) : IsValue (.bool b)
  | int {i : Int} : i.natAbs < 10 ^ digitLimit → IsValue (.int i)
  | float {d : Double} : d.IsValue → IsValue (.float d)
  | text (s : String) : IsValue (.text s)
  | list {items : List Json} : (∀ j ∈ items, IsValue j) → IsValue (.list items)
  | record {fields : List (String × Json)} : (fields.map Prod.fst).Nodup →
      (∀ f ∈ fields, IsValue f.2) → IsValue (.record fields)

theorem put_of_notMem {name : String} {fields : List (String × Json)}
    (h : name ∉ fields.map Prod.fst) (value : Json) :
    put name value fields = fields ++ [(name, value)] := by
  induction fields with
  | nil => rfl
  | cons f fields ih =>
    have hne : f.1 ≠ name := fun hf => h (hf ▸ List.mem_cons_self)
    rw [put, if_neg hne, ih fun hmem => h (List.mem_cons_of_mem _ hmem)]
    rfl

theorem foldl_put {fields more : List (String × Json)}
    (h : ((fields ++ more).map Prod.fst).Nodup) :
    more.foldl (fun fields f => put f.1 f.2 fields) fields = fields ++ more := by
  induction more generalizing fields with
  | nil => exact (List.append_nil fields).symm
  | cons f more ih =>
    have hnew : f.1 ∉ fields.map Prod.fst := by
      intro hmem
      rw [List.map_append, List.nodup_append] at h
      exact h.2.2 _ hmem _ List.mem_cons_self rfl
    have hassoc : fields ++ f :: more = fields ++ [f] ++ more := by simp
    rw [hassoc] at h
    rw [List.foldl_cons, put_of_notMem hnew, ih h, hassoc]

theorem ofPairs_eq_self {fields : List (String × Json)} (h : (fields.map Prod.fst).Nodup) :
    ofPairs fields = fields :=
  @foldl_put [] fields h

def Reads (j : Json) : Prop :=
  ∀ fuel rest, 2 * (writeChars j).length ≤ fuel → Ends rest →
    readValue fuel (writeChars j ++ rest) = .ok (j, rest)

theorem ends_nil : Ends [] :=
  fun _ hc => nomatch hc

theorem ends_cons {c : Char} (hc : c = ',' ∨ c = ']' ∨ c = '}') (rest : List Char) :
    Ends (c :: rest) := by
  rintro _ ⟨⟩
  rcases hc with rfl | rfl | rfl <;> decide

/-- No value starts with white space or with the end of a list. -/
theorem readValue_cons_ok {fuel : Nat} {c : Char} {cs : List Char} {r : Json × List Char}
    (h : readValue fuel (c :: cs) = .ok r) : isSpace c = false ∧ c ≠ ']' := by
  cases fuel with
  | zero => cases h
  | succ fuel =>
    constructor
    · rw [← Bool.not_eq_true]
      intro hspace
      simp only [isSpace, Bool.or_eq_true, decide_eq_true_eq] at hspace
      rcases hspace with ((rfl | rfl) | rfl) | rfl <;> cases h
    · rintro rfl
      cases h

theorem Reads.head {j : Json} (h : Reads j) :
    ∃ c cs, writeChars j = c :: cs ∧ isSpace c = false ∧ c ≠ ']' := by
  have hread := h _ [] (Nat.le_refl _) ends_nil
  cases hj : writeChars j with
  | nil =>
    rw [hj] at hread
    cases hread
  | cons c cs =>
    rw [hj] at hread
    exact ⟨c, cs, rfl, readValue_cons_ok hread⟩

theorem skipSpace_cons {c : Char} (hc : isSpace c = false) (cs : List Char) :
    skipSpace (c :: cs) = c :: cs :=
  List.dropWhile_cons_of_neg (Bool.eq_false_iff.1 hc)

theorem skipSpace_blank (cs : List Char) : skipSpace (' ' :: cs) = skipSpace cs :=
  rfl

theorem Reads.skipSpace {j : Json} (h : Reads j) (rest : List Char) :
    skipSpace (writeChars j ++ rest) = writeChars j ++ rest := by
  obtain ⟨c, cs, hj, hspace, -⟩ := h.head
  rw [hj, List.cons_append, skipSpace_cons hspace]

theorem readItems_last {fuel : Nat} {cs after : List Char} {j : Json}
    (h : readValue fuel cs = .ok (j, ']' :: after)) :
    readItems (fuel + 1) cs = .ok ([j], after) := by
  rw [readItems, h]
  rfl

theorem readItems_onward {fuel : Nat} {cs after rest : List Char} {j : Json} {items : List Json}
    (h : readValue fuel cs = .ok (j, ',' :: after))
    (hitems : readItems fuel (skipSpace after) = .ok (items, rest)) :
    readItems (fuel + 1) cs = .ok (j :: items, rest) := by
  rw [readItems, h]
  exact congrArg (Except.map _) hitems

theorem writeItems_cons {items : List Json} (hne : items ≠ []) (j : Json) :
    writeItems (j :: items) = writeChars j ++ ',' :: ' ' :: writeItems items := by
  rw [writeItems]
  · rw [List.append_assoc]
    rfl
  · exact hne

theorem writeItems_head {items : List Json} (hne : items ≠ []) (h : ∀ j ∈ items, Reads j) :
    ∃ c cs, writeItems items = c :: cs ∧ isSpace c = false ∧ c ≠ ']' := by
  cases items with
  | nil => exact absurd rfl hne
  | cons j items =>
    obtain ⟨c, cs, hj, hspace, hclose⟩ := (h j List.mem_cons_self).head
    by_cases hitems : items = []
    · exact ⟨c, cs, by rw [hitems, writeItems, hj], hspace, hclose⟩
    · exact ⟨c, _, by rw [writeItems_cons hitems, hj, List.cons_append], hspace, hclose⟩

theorem readItems_writeItems {items : List Json} (hne : items ≠ [])
    (h : ∀ j ∈ items, Reads j) {fuel : Nat} (hfuel : 2 * (writeItems items).length + 1 ≤ fuel)
    (rest : List Char) :
    readItems fuel (writeItems items ++ ']' :: rest) = .ok (items, rest) := by
  induction items generalizing fuel with
  | nil => exact absurd rfl hne
  | cons j items ih =>
    have hj : Reads j := h j List.mem_cons_self
    obtain ⟨steps, rfl⟩ := Nat.exists_eq_add_of_le' (Nat.le_of_add_left_le hfuel)
    by_cases hitems : items = []
    · subst hitems
      rw [writeItems] at hfuel ⊢
      exact readItems_last (hj steps _ (by omega) (ends_cons (by decide) rest))
    · have hmore : ∀ j ∈ items, Reads j := fun j hmem => h j (List.mem_cons_of_mem _ hmem)
      obtain ⟨c, cs, hwrite, hspace, -⟩ := writeItems_head hitems hmore
      have hskip : skipSpace (' ' :: (writeItems items ++ ']' :: rest)) =
          writeItems items ++ ']' :: rest := by
        rw [skipSpace_blank, hwrite, List.cons_append, skipSpace_cons hspace]
      rw [writeItems_cons hitems] at hfuel ⊢
      simp only [List.length_append, List.length_cons] at hfuel
      rw [List.append_assoc]
      refine readItems_onward (hj steps _ (by omega) (ends_cons (by decide) _)) ?_
      exact (congrArg (readItems steps) hskip).trans (ih hitems hmore (by omega))

theorem writeChars_list (items : List Json) (rest : List Char) :
    writeChars (.list items) ++ rest = '[' :: (writeItems items ++ ']' :: rest) := by
  rw [writeChars]
  simp

theorem reads_list {items : List Json} (h : ∀ j ∈ items, Reads j) : Reads (.list items) := by
  intro fuel rest hfuel hrest
  have hlength : (writeChars (.list items)).length = (writeItems items).length + 2 := by
    rw [← List.append_nil (writeChars (.list items)), writeChars_list]
    simp
  obtain ⟨steps, rfl⟩ := Nat.exists_eq_add_of_le' (show 1 ≤ fuel by omega)
  rw [writeChars_list]
  by_cases hitems : items = []
  · subst hitems
    rfl
  · obtain ⟨c, cs, hwrite, hspace, hclose⟩ := writeItems_head hitems h
    have hsteps : 2 * (writeItems items).length + 1 ≤ steps := by omega
    have hread := readItems_writeItems hitems h hsteps rest
    rw [hwrite, List.cons_append] at hread ⊢
    rw [readValue, skipSpace_cons hspace]
    split
    · next heq => exact absurd (List.cons.inj heq).1 hclose
    · rw [hread]
      rfl

theorem readFields_last {fuel : Nat} {name : String} {cs after : List Char} {j : Json}
    (hspace : skipSpace cs = cs) (h : readValue fuel cs = .ok (j, '}' :: after)) :
    readFields (fuel + 1) (writeText name ++ ':' :: ' ' :: cs) = .ok ([(name, j)], after) := by
  have hcolon : skipSpace (':' :: ' ' :: cs) = ':' :: ' ' :: cs := skipSpace_cons (by decide) _
  have hclose : skipSpace ('}' :: after) = '}' :: after := skipSpace_cons (by decide) _
  rw [writeText_append, readFields, readText_flatMap]
  simp only [hcolon, skipSpace_blank, hspace, h, hclose]

theorem readFields_onward {fuel : Nat} {name : String} {cs after rest : List Char} {j : Json}
    {fields : List (String × Json)} (hspace : skipSpace cs = cs)
    (h : readValue fuel cs = .ok (j, ',' :: after))
    (hfields : readFields fuel (skipSpace after) = .ok (fields, rest)) :
    readFields (fuel + 1) (writeText name ++ ':' :: ' ' :: cs) =
      .ok ((name, j) :: fields, rest) := by
  have hcolon : skipSpace (':' :: ' ' :: cs) = ':' :: ' ' :: cs := skipSpace_cons (by decide) _
  have hcomma : skipSpace (',' :: after) = ',' :: after := skipSpace_cons (by decide) _
  rw [writeText_append, readFields, readText_flatMap]
  simp only [hcolon, skipSpace_blank, hspace, h, hcomma, hfields]
  rfl

theorem writeFields_single (f : String × Json) :
    writeFields [f] = writeText f.1 ++ ':' :: ' ' :: writeChars f.2 := by
  rw [writeFields, List.append_assoc]
  rfl

theorem writeFields_cons {fields : List (String × Json)} (hne : fields ≠ []) (f : String × Json) :
    writeFields (f :: fields) =
      writeText f.1 ++ ':' :: ' ' :: (writeChars f.2 ++ ',' :: ' ' :: writeFields fields) := by
  rw [writeFields]
  · simp only [List.append_assoc]
    rfl
  · exact hne

theorem writeFields_head {fields : List (String × Json)} (hne : fields ≠ []) :
    ∃ cs, writeFields fields = '"' :: cs := by
  cases fields with
  | nil => exact absurd rfl hne
  | cons f fields =>
    by_cases hfields : fields = []
    · exact ⟨_, by rw [hfields, writeFields_single, writeText_append]⟩
    · exact ⟨_, by rw [writeFields_cons hfields, writeText_append]⟩

theorem readFields_writeFields {fields : List (String × Json)} (hne : fields ≠ [])
    (h : ∀ f ∈ fields, Reads f.2) {fuel : Nat}
    (hfuel : 2 * (writeFields fields).length + 1 ≤ fuel) (rest : List Char) :
    readFields fuel (writeFields fields ++ '}' :: rest) = .ok (fields, rest) := by
  induction fields generalizing fuel with
  | nil => exact absurd rfl hne
  | cons f fields ih =>
    have hf : Reads f.2 := h f List.mem_cons_self
    obtain ⟨steps, rfl⟩ := Nat.exists_eq_add_of_le' (Nat.le_of_add_left_le hfuel)
    by_cases hfields : fields = []
    · subst hfields
      rw [writeFields_single] at hfuel ⊢
      simp only [List.length_append, List.length_cons] at hfuel
      rw [List.append_assoc]
      exact readFields_last (hf.skipSpace _) (hf steps _ (by omega) (ends_cons (by decide) rest))
    · have hmore : ∀ f ∈ fields, Reads f.2 := fun f hmem => h f (List.mem_cons_of_mem _ hmem)
      obtain ⟨cs, hwrite⟩ := writeFields_head hfields
      have hskip : skipSpace (' ' :: (writeFields fields ++ '}' :: rest)) =
          writeFields fields ++ '}' :: rest := by
        rw [skipSpace_blank, hwrite, List.cons_append, skipSpace_cons (by decide)]
      rw [writeFields_cons hfields] at hfuel ⊢
      simp only [List.length_append, List.length_cons] at hfuel
      have hrest := (congrArg (readFields steps) hskip).trans (ih hfields hmore (by omega))
      have hvalue := hf steps (',' :: ' ' :: (writeFields fields ++ '}' :: rest)) (by omega)
        (ends_cons (by decide) _)
      simp only [List.append_assoc, List.cons_append]
      exact readFields_onward (hf.skipSpace _) hvalue hrest

theorem writeChars_record (fields : List (String × Json)) (rest : List Char) :
    writeChars (.record fields) ++ rest = '{' :: (writeFields fields ++ '}' :: rest) := by
  rw [writeChars]
  simp

theorem reads_record {fields : List (String × Json)} (hnames : (fields.map Prod.fst).Nodup)
    (h : ∀ f ∈ fields, Reads f.2) : Reads (.record fields) := by
  intro fuel rest hfuel hrest
  have hlength : (writeChars (.record fields)).length = (writeFields fields).length + 2 := by
    rw [← List.append_nil (writeChars (.record fields)), writeChars_record]
    simp
  obtain ⟨steps, rfl⟩ := Nat.exists_eq_add_of_le' (show 1 ≤ fuel by omega)
  rw [writeChars_record]
  by_cases hfields : fields = []
  · subst hfields
    rfl
  · obtain ⟨cs, hwrite⟩ := writeFields_head hfields
    have hsteps : 2 * (writeFields fields).length + 1 ≤ steps := by omega
    have hread := readFields_writeFields hfields h hsteps rest
    rw [hwrite, List.cons_append] at hread ⊢
    rw [readValue, skipSpace_cons (by decide)]
    split
    · next heq => cases heq
    · rw [hread, Except.map]
      dsimp only
      rw [ofPairs_eq_self hnames]

theorem reads_of_head {j : Json} (hlength : 0 < (writeChars j).length)
    (h : ∀ fuel rest, Ends rest → readValue (fuel + 1) (writeChars j ++ rest) = .ok (j, rest)) :
    Reads j := by
  intro fuel rest hfuel hrest
  obtain ⟨steps, rfl⟩ := Nat.exists_eq_add_of_le' (show 1 ≤ fuel by omega)
  exact h steps rest hrest

/-- A text that starts with a digit, perhaps behind a minus sign, is read as a number. -/
theorem readValue_digits {c : Char} (hc : c.isDigit = true) (fuel : Nat) (negative : Bool)
    (cs : List Char) :
    readValue (fuel + 1) (signChars negative ++ c :: cs) =
      readNumber (signChars negative ++ c :: cs) := by
  cases negative with
  | false =>
    rw [signChars, if_neg Bool.false_ne_true, List.nil_append, readValue]
    · exact List.cons_ne_nil _ _
    all_goals
      rintro _ ⟨⟩
      cases hc
  | true =>
    rw [signChars, if_pos rfl, List.singleton_append, readValue]
    · exact List.cons_ne_nil _ _
    -- Of the words only `-Infinity` starts with a minus sign.
    case x_12 =>
      rintro _ ⟨⟩
      cases hc
    all_goals rintro _ ⟨⟩

theorem readValue_whole {whole : List Char} (h : IsWhole whole) (fuel : Nat) (negative : Bool)
    (more : List Char) :
    readValue (fuel + 1) (signChars negative ++ (whole ++ more)) =
      readNumber (signChars negative ++ (whole ++ more)) := by
  cases whole with
  | nil => exact absurd rfl h.ne_nil
  | cons c cs => exact readValue_digits (h.isDigit c List.mem_cons_self) fuel negative (cs ++ more)

theorem reads_int {i : Int} (h : i.natAbs < 10 ^ digitLimit) : Reads (.int i) := by
  have hlength : (Nat.repr i.natAbs).toList.length ≤ digitLimit := by
    rw [String.length_toList]
    exact (length_repr_le_iff (by decide)).2 h
  have hpos : 0 < (Nat.repr i.natAbs).toList.length := List.length_pos_of_ne_nil (repr_ne_nil _)
  have hsign : (if decide (i < 0) = true then -(i.natAbs : Int) else i.natAbs) = i := by
    by_cases hneg : i < 0
    · rw [if_pos (decide_eq_true hneg)]
      omega
    · rw [if_neg (by simpa using hneg)]
      omega
  refine reads_of_head ?_ fun fuel rest hrest => ?_
  · rw [writeChars_int, List.length_append]
    omega
  · rw [writeChars_int, List.append_assoc, readValue_whole (isWhole_repr _),
      readNumber_whole (isWhole_repr _) hlength hrest, numeral_repr, hsign]

theorem reads_float {d : Double} (h : d.IsValue) : Reads (.float d) := by
  cases d with
  | nan => exact reads_of_head (by decide) fun fuel rest _ => rfl
  | infinite negative =>
    cases negative <;> exact reads_of_head (by decide) fun fuel rest _ => rfl
  | finite negative units =>
    obtain ⟨n, hfloat, htext, hvalue⟩ := magnitudeText_spells h
    have hwrite : writeChars (.float (.finite negative units)) = signChars negative ++ n.chars := by
      rw [writeChars, writeDouble_finite, htext]
    have hpos : 0 < n.whole.length := List.length_pos_of_ne_nil hfloat.whole.ne_nil
    refine reads_of_head ?_ fun fuel rest hrest => ?_
    · rw [hwrite, List.length_append, Numeral.chars, List.length_append]
      omega
    · have hread := readNumber_float hfloat hrest negative
      rw [hvalue, Numeral.chars, List.append_assoc] at hread
      rw [hwrite, List.append_assoc, Numeral.chars, List.append_assoc,
        readValue_whole hfloat.whole, hread]

theorem reads_text (s : String) : Reads (.text s) := by
  refine reads_of_head (Nat.zero_lt_succ _) fun fuel rest hrest => ?_
  rw [writeChars, writeText_append, readValue, readText_flatMap]
  rfl

theorem reads_of_isValue {j : Json} (h : IsValue j) : Reads j := by
  induction h with
  | null => exact reads_of_head (by decide) fun fuel rest _ => rfl
  | bool b => cases b <;> exact reads_of_head (by decide) fun fuel rest _ => rfl
  | int h => exact reads_int h
  | float h => exact reads_float h
  | text s => exact reads_text s
  | list _ ih => exact reads_list ih
  | record hnames _ ih => exact reads_record hnames ih

theorem parseChars_writeChars {j : Json} (h : IsValue j) : parseChars (writeChars j) = .ok j := by
  have hreads := reads_of_isValue h
  have hspace := hreads.skipSpace []
  have hread := hreads (2 * (writeChars j).length + 2) [] (by omega) ends_nil
  rw [List.append_nil] at hspace hread
  rw [parseChars, hspace, hread]
  rfl

end TableTalk.Json

import TableTalk.Csv.Records

/-!
# Scanning a record

What a scan makes of each character, and how it keeps count of the quotes: it ends inside quotes
exactly when the quotes that it has passed are odd in number. A table of scanned records has a
header at least, and every row is as wide as the headers.
-/

namespace TableTalk.Csv

open Text

theorem oddQuotes_eq_true_iff {cs : List Char} : oddQuotes cs = true ↔ cs.count '"' % 2 = 1 := by
  simp [oddQuotes]

theorem oddQuotes_eq_false_iff {cs : List Char} : oddQuotes cs = false ↔ cs.count '"' % 2 = 0 := by
  simp only [oddQuotes, beq_eq_false_iff_ne]
  omega

theorem count_quote_of_allBlank {cs : List Char} (h : allBlank cs = true) : cs.count '"' = 0 := by
  rw [List.count_eq_zero]
  intro hq
  have hb : isBlank '"' = true := List.all_eq_true.1 h _ hq
  exact absurd hb (by decide)

theorem allBlank_eq_false_of_odd {cs : List Char} (h : cs.count '"' % 2 = 1) :
    allBlank cs = false := by
  cases hb : allBlank cs with
  | false => rfl
  | true =>
    rw [count_quote_of_allBlank hb] at h
    omega

theorem oddQuotes_cons_quote (cs : List Char) : oddQuotes ('"' :: cs) = !oddQuotes cs := by
  cases h : oddQuotes cs with
  | true =>
    rw [oddQuotes_eq_true_iff] at h
    rw [Bool.not_true, oddQuotes_eq_false_iff, List.count_cons_self]
    omega
  | false =>
    rw [oddQuotes_eq_false_iff] at h
    rw [Bool.not_false, oddQuotes_eq_true_iff, List.count_cons_self]
    omega

theorem oddQuotes_cons_of_ne {c : Char} (h : c ≠ '"') (cs : List Char) :
    oddQuotes (c :: cs) = oddQuotes cs := by
  rw [oddQuotes, oddQuotes, List.count_cons_of_ne h]

theorem oddQuotes_append (a b : List Char) :
    oddQuotes (a ++ b) = (oddQuotes a ^^ oddQuotes b) := by
  induction a with
  | nil => simp [oddQuotes]
  | cons c a ih =>
    by_cases hc : c = '"'
    · rw [hc, List.cons_append, oddQuotes_cons_quote, oddQuotes_cons_quote, ih, Bool.not_xor]
    · rw [List.cons_append, oddQuotes_cons_of_ne hc, oddQuotes_cons_of_ne hc, ih]

theorem oddQuotes_concat_quote (before : List Char) :
    oddQuotes (before ++ ['"']) = !oddQuotes before := by
  rw [oddQuotes_append]
  exact Bool.xor_true _

theorem oddQuotes_concat_of_ne {c : Char} (h : c ≠ '"') (before : List Char) :
    oddQuotes (before ++ [c]) = oddQuotes before := by
  rw [oddQuotes_append, oddQuotes_cons_of_ne h]
  exact Bool.xor_false _

theorem Scan.fields_push (c : Char) (s : Scan) :
    (s.push c).fields = s.fields.modifyHead (c :: ·) := rfl

theorem Scan.fields_cut (s : Scan) : s.cut.fields = [] :: s.fields := rfl

theorem scan_open (rest : List Char) : scan false ('"' :: rest) = scan true rest := by
  rw [scan] <;> simp

theorem scan_pair (rest : List Char) :
    scan true ('"' :: '"' :: rest) = (scan true rest).push '"' := by
  rw [scan]

theorem scan_close {rest : List Char} (h : rest.head? ≠ some '"') :
    scan true ('"' :: rest) = scan false rest := by
  cases rest with
  | nil => rfl
  | cons c rest =>
    have hc : c ≠ '"' := fun hc => h (by rw [hc, List.head?_cons])
    rw [scan]
    · rfl
    · simp [hc]

theorem scan_comma (rest : List Char) : scan false (',' :: rest) = (scan false rest).cut := by
  rw [scan]

theorem scan_plain {inQuotes : Bool} {c : Char} (hquote : c ≠ '"')
    (hcomma : inQuotes = false → c ≠ ',') (rest : List Char) :
    scan inQuotes (c :: rest) = (scan inQuotes rest).push c := by
  rw [scan] <;> simp_all

/-- A scan ends inside quotes exactly when the number of quotes it has seen leaves it there; a
doubled quote counts twice. -/
theorem scan_isOpen (inQuotes : Bool) (cs : List Char) :
    (scan inQuotes cs).isOpen = (inQuotes ^^ oddQuotes cs) := by
  fun_induction scan inQuotes cs with
  | case1 inQuotes => simp [oddQuotes]
  | case2 rest ih => simp [Scan.push, ih, oddQuotes_cons_quote]
  | case3 inQuotes rest hpair ih => simp [ih, oddQuotes_cons_quote]
  | case4 rest ih => simp [Scan.cut, ih, oddQuotes_cons_of_ne]
  | case5 inQuotes c rest hpair hquote hcomma ih =>
    have hc : c ≠ '"' := fun h => by simp_all
    simp [Scan.push, ih, oddQuotes_cons_of_ne hc]

/-- A scan puts nothing into a field that is not in the record. -/
theorem subset_of_mem_fields {inQuotes : Bool} {cs field : List Char}
    (h : field ∈ (scan inQuotes cs).fields) : field ⊆ cs := by
  have hpush (c : Char) {s : Scan} {rest : List Char} (hs : ∀ f ∈ s.fields, f ⊆ rest) :
      ∀ f ∈ (s.push c).fields, f ⊆ c :: rest := by
    obtain ⟨hfirst, hothers⟩ := List.forall_mem_cons.1 hs
    exact List.forall_mem_cons.2 ⟨List.cons_subset_cons c hfirst,
      fun f hf => List.subset_cons_of_subset c (hothers f hf)⟩
  suffices hall : ∀ f ∈ (scan inQuotes cs).fields, f ⊆ cs from hall field h
  clear h
  fun_induction scan inQuotes cs with
  | case1 inQuotes => simp [Scan.fields]
  | case2 rest ih => exact fun f hf => List.subset_cons_of_subset _ (hpush _ ih f hf)
  | case3 inQuotes rest hpair ih => exact fun f hf => List.subset_cons_of_subset _ (ih f hf)
  | case4 rest ih =>
    rw [Scan.fields_cut]
    exact List.forall_mem_cons.2 ⟨List.nil_subset _,
      fun f hf => List.subset_cons_of_subset _ (ih f hf)⟩
  | case5 inQuotes c rest hpair hquote hcomma ih => exact hpush c ih

structure IsRectangular (t : Table) : Prop where
  ne_nil : t.headers ≠ []
  length_eq : ∀ row ∈ t.rows, row.length = t.headers.length

theorem fieldChars_ne_nil (record : List Char) : fieldChars record ≠ [] := by
  simp [fieldChars, Scan.fields]

/-- A row that is too long loses its last fields, and one that is too short gets empty ones. -/
theorem fitRow_eq (width : Nat) (fields : List (List Char)) :
    fitRow width fields = fields.take width ++ List.replicate (width - fields.length) [] := by
  rw [fitRow, List.take_append, List.take_replicate, Nat.min_self]

theorem length_fitRow (width : Nat) (fields : List (List Char)) :
    (fitRow width fields).length = width := by
  simp only [fitRow, List.length_take, List.length_append, List.length_replicate]
  omega

theorem isRectangular_of_parse {csv : String} {t : Table} (h : parse csv = .ok t) :
    IsRectangular t := by
  rw [parse, parseChars] at h
  split at h
  · cases h
  · split at h
    · cases h
    · next header lines _ =>
      obtain rfl := Except.ok.inj h
      refine ⟨by simpa [tableOf] using fieldChars_ne_nil header, fun row hrow => ?_⟩
      simp only [tableOf, List.mem_map] at hrow
      obtain ⟨_, ⟨fields, -, rfl⟩, rfl⟩ := hrow
      simp only [tableOf, List.length_map, length_fitRow]

end TableTalk.Csv

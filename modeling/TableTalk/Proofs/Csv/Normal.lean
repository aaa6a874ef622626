import TableTalk.Proofs.Csv.Rendering
import TableTalk.Proofs.Csv.Scan

/-!
# Tables in normal form

Whatever text a table is read from, it comes in a normal form: at least one header, rows as wide as
the headers, no missing cell, every header and cell trimmed, and no line feed in a header. A table
in normal form is read back from the text in which all its cells stand between quotes.
-/

namespace TableTalk.Csv

open Text

/-- What every table read from CSV text looks like. -/
structure IsNormal (t : Table) : Prop extends IsRectangular t where
  trim_header : ∀ header ∈ t.headers, trim header = header
  header_oneLine : ∀ header ∈ t.headers, '\n' ∉ header.toList
  cell_eq : ∀ row ∈ t.rows, ∀ cell ∈ row, ∃ text, cell = some text ∧ trim text = text

def headerChars (cs : List Char) : List (List Char) :=
  fieldChars (headerLine cs)

def rowChars (cs : List Char) : List (List (List Char)) :=
  (recordPieces (body cs)).map fun piece => fitRow (headerChars cs).length (fieldChars piece)

theorem parseChars_eq_tableOf {cs : List Char} (h : allBlank cs = false) :
    parseChars cs = .ok (tableOf (headerChars cs) (rowChars cs)) :=
  parseChars_eq_pieces h

theorem parseChars_of_allBlank {cs : List Char} (h : allBlank cs = true) :
    parseChars cs = .error .noData := by
  rw [parseChars, if_pos h]

theorem eq_noData_of_parseChars {cs : List Char} {f : Failure} (h : parseChars cs = .error f) :
    f = .noData := by
  cases hblank : allBlank cs with
  | true =>
    rw [parseChars_of_allBlank hblank] at h
    exact (Except.error.inj h).symm
  | false =>
    rw [parseChars_eq_tableOf hblank] at h
    cases h

theorem eq_tableOf_of_parse {text : String} {t : Table} (h : parse text = .ok t) :
    t = tableOf (headerChars text.toList) (rowChars text.toList) := by
  rw [parse] at h
  cases hblank : allBlank text.toList with
  | true =>
    rw [parseChars_of_allBlank hblank] at h
    cases h
  | false => exact Except.ok.inj (h.symm.trans (parseChars_eq_tableOf hblank))

theorem trim_ofList_trimChars (cs : List Char) :
    trim (String.ofList (trimChars cs)) = String.ofList (trimChars cs) := by
  rw [trim, String.toList_ofList, trimChars_trimChars]

theorem exists_of_mem_fieldChars {record field : List Char} (h : field ∈ fieldChars record) :
    ∃ raw, field = trimChars raw ∧ raw ⊆ record := by
  obtain ⟨raw, hraw, rfl⟩ := List.mem_map.1 h
  exact ⟨raw, rfl, subset_of_mem_fields hraw⟩

theorem notMem_headerLine (cs : List Char) : '\n' ∉ headerLine cs := by
  intro hmem
  simpa using List.mem_takeWhile_imp hmem

theorem notMem_headerChars {cs header : List Char} (h : header ∈ headerChars cs) :
    '\n' ∉ header := by
  obtain ⟨raw, rfl, hraw⟩ := exists_of_mem_fieldChars h
  exact fun hline => notMem_headerLine cs (hraw ((infix_trimChars raw).subset hline))

theorem mem_fitRow {width : ℕ} {fields : List (List Char)} {cell : List Char}
    (h : cell ∈ fitRow width fields) : cell ∈ fields ∨ cell = [] := by
  have hmem := List.mem_of_mem_take h
  rcases List.mem_append.1 hmem with hmem | hmem
  · exact Or.inl hmem
  · exact Or.inr (List.eq_of_mem_replicate hmem)

theorem isNormal_of_parse {text : String} {t : Table} (h : parse text = .ok t) : IsNormal t where
  toIsRectangular := isRectangular_of_parse h
  trim_header header hheader := by
    rw [eq_tableOf_of_parse h] at hheader
    obtain ⟨field, hfield, rfl⟩ := List.mem_map.1 hheader
    obtain ⟨raw, rfl, -⟩ := exists_of_mem_fieldChars hfield
    exact trim_ofList_trimChars raw
  header_oneLine header hheader hline := by
    rw [eq_tableOf_of_parse h] at hheader
    obtain ⟨field, hfield, rfl⟩ := List.mem_map.1 hheader
    rw [String.toList_ofList] at hline
    exact notMem_headerChars hfield hline
  cell_eq row hrow cell hcell := by
    rw [eq_tableOf_of_parse h] at hrow
    obtain ⟨fields, hfields, rfl⟩ := List.mem_map.1 hrow
    obtain ⟨piece, -, rfl⟩ := List.mem_map.1 hfields
    obtain ⟨field, hfield, rfl⟩ := List.mem_map.1 hcell
    refine ⟨String.ofList field, rfl, ?_⟩
    rcases mem_fitRow hfield with hfield | rfl
    · obtain ⟨raw, rfl, -⟩ := exists_of_mem_fieldChars hfield
      exact trim_ofList_trimChars raw
    · rfl

def quotedRecord (texts : List String) : List Char :=
  renderRecord (texts.map fun text => ⟨text.toList, true, by simp⟩)

/-- The text of a table with all cells between quotes; a missing cell is written like an empty
one. -/
def quotedText (t : Table) : String :=
  String.ofList (['\n'].intercalate
    (quotedRecord t.headers :: t.rows.map fun row => quotedRecord (row.map (·.getD ""))))

theorem fieldChars_quotedRecord {texts : List String} (hne : texts ≠ []) :
    fieldChars (quotedRecord texts) = texts.map fun text => trimChars text.toList := by
  rw [quotedRecord, fieldChars_renderRecord (by simpa using hne), trimmedCells, List.map_map]
  rfl

theorem notMem_quotedRecord {texts : List String} (h : ∀ text ∈ texts, '\n' ∉ text.toList) :
    '\n' ∉ quotedRecord texts := by
  apply notMem_renderRecord
  intro cell hcell
  obtain ⟨text, htext, rfl⟩ := List.mem_map.1 hcell
  exact h text htext

theorem allBlank_quotedRecord {texts : List String} (hne : texts ≠ []) :
    allBlank (quotedRecord texts) = false := by
  obtain ⟨text, texts, rfl⟩ := List.exists_cons_of_ne_nil hne
  cases texts with
  | nil => simp [quotedRecord, renderRecord, WrittenCell.render, allBlank, isBlank]
  | cons next more =>
    rw [quotedRecord, List.map_cons, List.map_cons, renderRecord_cons_cons]
    simp [WrittenCell.render, allBlank, isBlank]

theorem headerLine_intercalate {line : List Char} (h : '\n' ∉ line) (pieces : List (List Char)) :
    headerLine (['\n'].intercalate (line :: pieces)) = line := by
  cases pieces with
  | nil => simpa using headerLine_of_notMem h
  | cons piece pieces =>
    rw [List.intercalate_cons_cons, List.append_assoc]
    exact headerLine_append h _

theorem body_intercalate {line : List Char} (h : '\n' ∉ line) (pieces : List (List Char)) :
    body (['\n'].intercalate (line :: pieces)) = ['\n'].intercalate pieces := by
  cases pieces with
  | nil => simpa using body_of_notMem h
  | cons piece pieces =>
    rw [List.intercalate_cons_cons, List.append_assoc]
    exact body_append h _

/-- Texts in which no record ends are found again where they are joined with line feeds. -/
theorem recordPieces_of_whole {pieces : List (List Char)} (h : ∀ piece ∈ pieces, Whole piece) :
    recordPieces (['\n'].intercalate pieces) = pieces.filter fun piece => !allBlank piece := by
  cases pieces with
  | nil => rfl
  | cons piece pieces => rw [recordPieces, cutOutside_intercalate (by simp) h rfl]

theorem fitRow_of_length {width : ℕ} {fields : List (List Char)} (h : fields.length = width) :
    fitRow width fields = fields := by
  rw [fitRow, h, Nat.sub_self, List.replicate_zero, List.append_nil, ← h, List.take_length]

theorem allBlank_headerLine {cs : List Char} (h : allBlank cs = true) :
    allBlank (headerLine cs) = true := by
  rw [allBlank, List.all_eq_true] at h ⊢
  exact fun c hc => h c ((List.takeWhile_prefix _).subset hc)

theorem map_eq_self {α : Type} {f : α → α} {as : List α} (h : ∀ a ∈ as, f a = a) :
    as.map f = as :=
  (List.map_congr_left h).trans (List.map_id as)

/-- Trimming changes nothing in a table in normal form. -/
theorem tableOf_of_isNormal {t : Table} (h : IsNormal t) :
    tableOf (t.headers.map fun header => trimChars header.toList)
      (t.rows.map fun row => (row.map (·.getD "")).map fun text => trimChars text.toList) = t := by
  have hheaders : t.headers.map trim = t.headers := map_eq_self h.trim_header
  have hrows : (t.rows.map fun row => row.map fun cell => some (trim (cell.getD ""))) = t.rows := by
    refine map_eq_self fun row hrow => map_eq_self fun cell hcell => ?_
    obtain ⟨text, rfl, htrim⟩ := h.cell_eq row hrow cell hcell
    exact congrArg some htrim
  simp only [tableOf, List.map_map, Function.comp_def]
  exact congrArg₂ Table.mk hheaders hrows

/-- A table in normal form is read back from its quoted text. -/
theorem parse_of_isNormal {t : Table} (h : IsNormal t) : parse (quotedText t) = .ok t := by
  let texts (row : List Cell) : List String := row.map (·.getD "")
  let cs := ['\n'].intercalate
    (quotedRecord t.headers :: t.rows.map fun row => quotedRecord (texts row))
  have hfree : '\n' ∉ quotedRecord t.headers := notMem_quotedRecord h.header_oneLine
  have hheader : headerLine cs = quotedRecord t.headers := headerLine_intercalate hfree _
  -- The text is not blank even if all its cells are: the quotes of the headers are no white space.
  have hblank : allBlank cs = false := by
    rw [Bool.eq_false_iff]
    intro hcs
    have hline := allBlank_headerLine hcs
    rw [hheader, allBlank_quotedRecord h.ne_nil] at hline
    cases hline
  have hheaders : headerChars cs = t.headers.map fun header => trimChars header.toList := by
    rw [headerChars, hheader, fieldChars_quotedRecord h.ne_nil]
  have hrecord (row : List Cell) (hrow : row ∈ t.rows) : texts row ≠ [] := by
    have hlength := h.length_eq row hrow
    have hpos := List.length_pos_iff.2 h.ne_nil
    exact List.length_pos_iff.1 (by rw [List.length_map]; omega)
  have hpieces : recordPieces (body cs) = t.rows.map fun row => quotedRecord (texts row) := by
    rw [body_intercalate hfree, recordPieces_of_whole, List.filter_eq_self]
    · intro piece hpiece
      obtain ⟨row, hrow, rfl⟩ := List.mem_map.1 hpiece
      rw [allBlank_quotedRecord (hrecord row hrow)]
      rfl
    · intro piece hpiece
      obtain ⟨row, -, rfl⟩ := List.mem_map.1 hpiece
      exact whole_renderRecord _
  have hrows : rowChars cs = t.rows.map fun row =>
      (texts row).map fun text => trimChars text.toList := by
    rw [rowChars, hpieces, List.map_map]
    refine List.map_congr_left fun row hrow => ?_
    rw [Function.comp_apply, fieldChars_quotedRecord (hrecord row hrow), hheaders, fitRow_of_length]
    rw [List.length_map, List.length_map, List.length_map, h.length_eq row hrow]
  rw [parse, quotedText, String.toList_ofList, parseChars_eq_tableOf hblank, hheaders, hrows,
    tableOf_of_isNormal h]

/-- Every text that is accepted gives a table in normal form, and nothing of it is lost when it is
written with all cells between quotes. -/
theorem parse_quotedText {text : String} {t : Table} (h : parse text = .ok t) :
    IsNormal t ∧ parse (quotedText t) = .ok t :=
  ⟨isNormal_of_parse h, parse_of_isNormal (isNormal_of_parse h)⟩

/-- A stray quote in the headers, a long and a short row, a doubled quote outside of any other, and
a quote left open in front of a line feed. -/
theorem parse_quotedText_malformed :
    let text := " a\u2003,b\"\n1, \"x \"\"\ny\",3\n\n\"\"2\n,\"open\n,"
    let t : Table :=
      ⟨["a", "b"], [[some "1", some "x \"\ny"], [some "2", some ""], [some "", some "open\n,"]]⟩
    parse text = .ok t ∧ IsNormal t ∧ parse (quotedText t) = .ok t := by
  intro text t
  have h : parse text = .ok t := by decide
  exact ⟨h, parse_quotedText h⟩

end TableTalk.Csv

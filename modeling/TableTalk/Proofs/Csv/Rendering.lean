import TableTalk.Proofs.Csv.Pieces

/-!
# Writing a table as CSV text

A cell is written between quotes, with the quotes in it doubled, or bare if it holds no comma, quote
or line feed. Cells stand between commas and records between line feeds, with blank lines wherever
they are wanted after the headers. Reading such a text gives the trimmed cells back, whichever way
each of them is written.
-/

namespace TableTalk.Csv

open Text

def isBare (cs : List Char) : Bool :=
  cs.all fun c => c ≠ ',' && c ≠ '"' && c ≠ '\n'

/-- A cell and the way in which it is written. -/
structure WrittenCell where
  text : List Char
  inQuotes : Bool
  bare : inQuotes = false → isBare text = true

def doubled (cs : List Char) : List Char :=
  cs.flatMap fun c => if c = '"' then ['"', '"'] else [c]

namespace WrittenCell

def render (cell : WrittenCell) : List Char :=
  if cell.inQuotes then '"' :: (doubled cell.text ++ ['"']) else cell.text

end WrittenCell

def renderRecord (cells : List WrittenCell) : List Char :=
  [','].intercalate (cells.map WrittenCell.render)

/-- What may follow the headers: a blank line, or a record that does not look like one. -/
inductive Entry where
  | blank (line : List Char) (allBlank_line : allBlank line = true) (oneLine : '\n' ∉ line)
  | record (cells : List WrittenCell) (notBlank : allBlank (renderRecord cells) = false)

namespace Entry

def render : Entry → List Char
  | blank line _ _ => line
  | record cells _ => renderRecord cells

def cells? : Entry → Option (List WrittenCell)
  | blank _ _ _ => none
  | record cells _ => some cells

end Entry

def renderTable (headers : List WrittenCell) (entries : List Entry) : List Char :=
  ['\n'].intercalate (renderRecord headers :: entries.map Entry.render)

def trimmedCells (cells : List WrittenCell) : List (List Char) :=
  cells.map fun cell => trimChars cell.text

theorem doubled_cons_quote (cs : List Char) : doubled ('"' :: cs) = '"' :: '"' :: doubled cs := rfl

theorem doubled_cons_of_ne {c : Char} (h : c ≠ '"') (cs : List Char) :
    doubled (c :: cs) = c :: doubled cs := by
  simp [doubled, h]

theorem scan_doubled (text : List Char) {rest : List Char} (h : rest.head? ≠ some '"') :
    scan true (doubled text ++ '"' :: rest) =
      { scan false rest with field := text ++ (scan false rest).field } := by
  induction text with
  | nil => exact scan_close h
  | cons c text ih =>
    by_cases hc : c = '"'
    · rw [hc, doubled_cons_quote, List.cons_append, List.cons_append, scan_pair, ih]
      rfl
    · rw [doubled_cons_of_ne hc, List.cons_append, scan_plain hc (by simp), ih]
      rfl

theorem scan_bare {text : List Char} (h : isBare text = true) (rest : List Char) :
    scan false (text ++ rest) =
      { scan false rest with field := text ++ (scan false rest).field } := by
  induction text with
  | nil => rfl
  | cons c text ih =>
    simp only [isBare, List.all_cons, Bool.and_eq_true, decide_eq_true_eq] at h ih
    rw [List.cons_append, scan_plain h.1.1.2 (fun _ => h.1.1.1), ih h.2]
    rfl

/-- A written cell adds its text to the first field, up to a comma or the end of the record. -/
theorem scan_render (cell : WrittenCell) {rest : List Char} (h : rest.head? ≠ some '"') :
    scan false (cell.render ++ rest) =
      { scan false rest with field := cell.text ++ (scan false rest).field } := by
  cases hq : cell.inQuotes with
  | true =>
    rw [WrittenCell.render, if_pos hq, List.cons_append, scan_open, List.append_assoc]
    exact scan_doubled cell.text h
  | false =>
    rw [WrittenCell.render, if_neg (by simp [hq])]
    exact scan_bare (cell.bare hq) rest

theorem renderRecord_cons_cons (cell next : WrittenCell) (more : List WrittenCell) :
    renderRecord (cell :: next :: more) =
      cell.render ++ ([','] ++ renderRecord (next :: more)) := by
  simp [renderRecord, List.intercalate_cons_cons]

theorem fields_scan_renderRecord {cells : List WrittenCell} (hne : cells ≠ []) :
    (scan false (renderRecord cells)).fields = cells.map WrittenCell.text := by
  induction cells with
  | nil => exact absurd rfl hne
  | cons cell cells ih =>
    cases cells with
    | nil =>
      have hscan : scan false (cell.render ++ []) = _ := scan_render cell (by simp)
      rw [List.append_nil] at hscan
      simp [renderRecord, hscan, Scan.fields, scan]
    | cons next more =>
      rw [renderRecord_cons_cons, List.singleton_append, scan_render cell (by simp), scan_comma,
        List.map_cons, ← ih (by simp)]
      simp [Scan.fields, Scan.cut]

theorem fieldChars_renderRecord {cells : List WrittenCell} (hne : cells ≠ []) :
    fieldChars (renderRecord cells) = trimmedCells cells := by
  rw [fieldChars, fields_scan_renderRecord hne, List.map_map]
  rfl

/-- A text in which no record ends: it holds an even number of quotes, and after an even number of
quotes no line feed in it is a break. -/
structure Whole (cs : List Char) : Prop where
  even : cs.count '"' % 2 = 0
  unbroken : ∀ before rest : List Char, before.count '"' % 2 = 0 →
    cutOutside '\n' before (cs ++ rest) =
      (cutOutside '\n' (before ++ cs) rest).modifyHead (cs ++ ·)

theorem Whole.append {a b : List Char} (ha : Whole a) (hb : Whole b) : Whole (a ++ b) where
  even := by
    have := ha.even
    have := hb.even
    rw [List.count_append]
    omega
  unbroken before rest h := by
    have hmid : (before ++ a).count '"' % 2 = 0 := by
      have := ha.even
      rw [List.count_append]
      omega
    rw [List.append_assoc, ha.unbroken before (b ++ rest) h, hb.unbroken (before ++ a) rest hmid,
      modifyHead_append, List.append_assoc]

theorem whole_of_notMem {cs : List Char} (hquote : cs.count '"' = 0) (hline : '\n' ∉ cs) :
    Whole cs where
  even := by omega
  unbroken before rest _ := cutOutside_append hline before rest

theorem cutOutside_doubled (text : List Char) {before : List Char}
    (h : before.count '"' % 2 = 1) (rest : List Char) :
    cutOutside '\n' before (doubled text ++ rest) =
      (cutOutside '\n' (before ++ doubled text) rest).modifyHead (doubled text ++ ·) := by
  induction text generalizing before with
  | nil => simpa [doubled] using (modifyHead_nil_append _).symm
  | cons c text ih =>
    have hc : ((before ++ [c]) ++ [c]).count '"' % 2 = 1 := by
      simp only [List.count_append]
      omega
    by_cases hq : c = '"'
    · rw [hq] at hc ⊢
      rw [doubled_cons_quote, List.cons_append, List.cons_append, cutOutside_keep (by simp),
        cutOutside_keep (by simp), ih hc]
      simp [Function.comp_def]
    · have hone : (before ++ [c]).count '"' % 2 = 1 := by
        simpa [List.count_append, List.count_singleton, hq] using h
      rw [doubled_cons_of_ne hq, List.cons_append, cutOutside_keep (fun _ => h), ih hone]
      simp [Function.comp_def]

theorem count_doubled (text : List Char) : (doubled text).count '"' % 2 = 0 := by
  induction text with
  | nil => rfl
  | cons c text ih =>
    by_cases hq : c = '"'
    · rw [hq, doubled_cons_quote, List.count_cons_self, List.count_cons_self]
      omega
    · rwa [doubled_cons_of_ne hq, List.count_cons_of_ne hq]

/-- The line feeds in a cell between quotes are inside them. -/
theorem whole_quoted (text : List Char) : Whole ('"' :: (doubled text ++ ['"'])) where
  even := by
    have := count_doubled text
    simp only [List.count_cons_self, List.count_append, List.count_nil]
    omega
  unbroken before rest h := by
    have hopen : (before ++ ['"']).count '"' % 2 = 1 := by
      simp only [List.count_append, List.count_cons_self, List.count_nil]
      omega
    rw [List.cons_append, List.append_assoc, cutOutside_keep (by simp),
      cutOutside_doubled text hopen, List.singleton_append, cutOutside_keep (by simp)]
    simp [Function.comp_def]

theorem WrittenCell.whole_render (cell : WrittenCell) : Whole cell.render := by
  cases hq : cell.inQuotes with
  | true =>
    rw [WrittenCell.render, if_pos hq]
    exact whole_quoted cell.text
  | false =>
    have hbare := List.all_eq_true.1 (cell.bare hq)
    rw [WrittenCell.render, if_neg (by simp [hq])]
    apply whole_of_notMem
    · rw [List.count_eq_zero]
      exact fun hmem => absurd (hbare _ hmem) (by decide)
    · exact fun hmem => absurd (hbare _ hmem) (by decide)

theorem whole_renderRecord (cells : List WrittenCell) : Whole (renderRecord cells) := by
  induction cells with
  | nil => exact whole_of_notMem rfl List.not_mem_nil
  | cons cell cells ih =>
    cases cells with
    | nil => simpa [renderRecord] using cell.whole_render
    | cons next more =>
      rw [renderRecord_cons_cons]
      exact cell.whole_render.append ((whole_of_notMem (by decide) (by decide)).append ih)

theorem Entry.whole_render (entry : Entry) : Whole entry.render := by
  cases entry with
  | blank line hblank hline => exact whole_of_notMem (count_quote_of_allBlank hblank) hline
  | record cells hcells => exact whole_renderRecord cells

/-- Cutting at the breaks undoes joining with line feeds. -/
theorem cutOutside_intercalate {pieces : List (List Char)} (hne : pieces ≠ [])
    (hwhole : ∀ piece ∈ pieces, Whole piece) {before : List Char}
    (h : before.count '"' % 2 = 0) :
    cutOutside '\n' before (['\n'].intercalate pieces) = pieces := by
  induction pieces generalizing before with
  | nil => exact absurd rfl hne
  | cons piece pieces ih =>
    have hpiece : Whole piece := hwhole piece List.mem_cons_self
    cases pieces with
    | nil => simpa [cutOutside] using hpiece.unbroken before [] h
    | cons next more =>
      have hmid : (before ++ piece).count '"' % 2 = 0 := by
        have := hpiece.even
        rw [List.count_append]
        omega
      have hnext : ((before ++ piece) ++ ['\n']).count '"' % 2 = 0 := by
        simpa [List.count_append] using hmid
      have hrest := ih (by simp) (fun p hp => hwhole p (List.mem_cons_of_mem _ hp)) hnext
      rw [List.intercalate_cons_cons, List.append_assoc, hpiece.unbroken before _ h,
        List.singleton_append, cutOutside_sep hmid, hrest, List.modifyHead_cons, List.append_nil]

theorem recordPieces_intercalate (entries : List Entry) :
    recordPieces (['\n'].intercalate (entries.map Entry.render)) =
      (entries.filterMap Entry.cells?).map renderRecord := by
  have hkept : ((entries.map Entry.render).filter fun piece => !allBlank piece) =
      (entries.filterMap Entry.cells?).map renderRecord := by
    induction entries with
    | nil => rfl
    | cons entry entries ih =>
      cases entry with
      | blank line hblank hline =>
        have hnone : (Entry.blank line hblank hline).cells? = none := rfl
        rw [List.filterMap_cons_none hnone, ← ih]
        simp [Entry.render, hblank]
      | record cells hcells =>
        have hsome : (Entry.record cells hcells).cells? = some cells := rfl
        rw [List.filterMap_cons_some hsome, List.map_cons, List.map_cons, ← ih]
        simp [Entry.render, hcells]
  cases entries with
  | nil => rfl
  | cons entry entries =>
    rw [recordPieces, cutOutside_intercalate (by simp) _ rfl, hkept]
    intro piece hp
    obtain ⟨e, _, rfl⟩ := List.mem_map.1 hp
    exact e.whole_render

theorem notMem_render {cell : WrittenCell} (h : '\n' ∉ cell.text) : '\n' ∉ cell.render := by
  rw [WrittenCell.render]
  split
  · have hdoubled : '\n' ∉ doubled cell.text := by
      simp only [doubled, List.mem_flatMap, not_exists, not_and]
      intro c hc hmem
      split at hmem
      · simp at hmem
      · exact h (List.mem_singleton.1 hmem ▸ hc)
    simpa using hdoubled
  · exact h

theorem notMem_renderRecord {cells : List WrittenCell} (h : ∀ cell ∈ cells, '\n' ∉ cell.text) :
    '\n' ∉ renderRecord cells := by
  induction cells with
  | nil => exact List.not_mem_nil
  | cons cell cells ih =>
    have hcell := notMem_render (h cell List.mem_cons_self)
    cases cells with
    | nil => simpa [renderRecord] using hcell
    | cons next more =>
      have hrest := ih fun c hc => h c (List.mem_cons_of_mem _ hc)
      rw [renderRecord_cons_cons]
      simp [hcell, hrest]

theorem headerLine_append {line : List Char} (h : '\n' ∉ line) (rest : List Char) :
    headerLine (line ++ '\n' :: rest) = line := by
  rw [headerLine, List.takeWhile_append_of_pos, List.takeWhile_cons_of_neg (by simp),
    List.append_nil]
  exact fun c hc => by simpa using fun he : c = '\n' => h (he ▸ hc)

theorem body_append {line : List Char} (h : '\n' ∉ line) (rest : List Char) :
    body (line ++ '\n' :: rest) = rest := by
  rw [body, List.dropWhile_append_of_pos, List.dropWhile_cons_of_neg (by simp), List.drop_one,
    List.tail_cons]
  exact fun c hc => by simpa using fun he : c = '\n' => h (he ▸ hc)

theorem headerLine_of_notMem {line : List Char} (h : '\n' ∉ line) : headerLine line = line := by
  rw [headerLine, List.takeWhile_eq_self_iff]
  exact fun c hc => by simpa using fun he : c = '\n' => h (he ▸ hc)

/-- Reading a written table: the headers and, row for row, the cells of the records, all trimmed,
with each row as wide as the headers. -/
theorem parse_renderTable {headers : List WrittenCell} (hne : headers ≠ [])
    (hline : ∀ cell ∈ headers, '\n' ∉ cell.text) (entries : List Entry)
    (hblank : allBlank (renderTable headers entries) = false) :
    parse (String.ofList (renderTable headers entries)) =
      .ok (tableOf (trimmedCells headers) ((entries.filterMap Entry.cells?).map fun cells =>
        fitRow headers.length (trimmedCells cells))) := by
  have hfree : '\n' ∉ renderRecord headers := notMem_renderRecord hline
  have hcells : ∀ cells ∈ entries.filterMap Entry.cells?, cells ≠ [] := by
    rintro _ hmem rfl
    obtain ⟨entry, _, hentry⟩ := List.mem_filterMap.1 hmem
    cases entry with
    | blank line hb hl => simp [Entry.cells?] at hentry
    | record cells hcells =>
      obtain rfl : cells = [] := by simpa [Entry.cells?] using hentry
      exact absurd hcells (by decide)
  have hheader : headerLine (renderTable headers entries) = renderRecord headers := by
    cases entries with
    | nil => simpa [renderTable] using headerLine_of_notMem hfree
    | cons entry entries =>
      simp only [renderTable, List.map_cons, List.intercalate_cons_cons, List.append_assoc]
      exact headerLine_append hfree _
  have hbody : body (renderTable headers entries) =
      ['\n'].intercalate (entries.map Entry.render) := by
    cases entries with
    | nil => simpa [renderTable] using body_of_notMem hfree
    | cons entry entries =>
      simp only [renderTable, List.map_cons, List.intercalate_cons_cons, List.append_assoc]
      exact body_append hfree _
  have hrows : (recordPieces (body (renderTable headers entries))).map (fun piece =>
        fitRow headers.length (fieldChars piece)) =
      (entries.filterMap Entry.cells?).map fun cells =>
        fitRow headers.length (trimmedCells cells) := by
    rw [hbody, recordPieces_intercalate, List.map_map]
    apply List.map_congr_left
    intro cells hmem
    rw [Function.comp_apply, fieldChars_renderRecord (hcells cells hmem)]
  have hwidth : (trimmedCells headers).length = headers.length := List.length_map _
  rw [parse, String.toList_ofList, parseChars_eq_pieces hblank, hheader,
    fieldChars_renderRecord hne, hwidth, hrows]

/-- Headers with a comma in one of them, a blank line, a long row with quotes and a line feed
inside a cell, and a short row. -/
theorem parse_renderTable_mixed :
    let plain (text : String) (h : isBare text.toList = true) : WrittenCell :=
      ⟨text.toList, false, fun _ => h⟩
    let quoted (text : String) : WrittenCell := ⟨text.toList, true, by simp⟩
    let headers := [plain " id" rfl, quoted "name, \"full\""]
    let long := [plain "1" rfl, quoted "\"x\"\n\"\"", quoted ""]
    let entries := [.blank [' ', '\t'] rfl (by decide), .record long (by decide),
      .record [plain "2 " rfl] (by decide)]
    headers ≠ [] ∧ (∀ cell ∈ headers, '\n' ∉ cell.text) ∧
      allBlank (renderTable headers entries) = false ∧
      parse (String.ofList (renderTable headers entries)) =
        .ok ⟨["id", "name, \"full\""],
          [[some "1", some "\"x\"\n\"\""], [some "2", some ""]]⟩ := by
  intro plain quoted headers long entries
  have hne : headers ≠ [] := by simp [headers]
  have hline : ∀ cell ∈ headers, '\n' ∉ cell.text := by decide
  have hblank : allBlank (renderTable headers entries) = false := by decide
  exact ⟨hne, hline, hblank, (parse_renderTable hne hline entries hblank).trans (by decide)⟩

end TableTalk.Csv

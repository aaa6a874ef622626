import Mathlib.Data.List.Forall2
import TableTalk.Proofs.Csv.Normal
import TableTalk.Proofs.Text.Search
import TableTalk.Proofs.Text.Utf8
import TableTalk.Text.Utf8

/-!
# Line endings of CSV text

A text whose lines end in line feeds can be given a carriage return in front of each of them. That
keeps white space white space, so trimming goes along with it, and making all line endings line
feeds takes the carriage returns back.

Carriage returns in front of the line feeds of a text stay at the ends of records, where they are
trimmed away, or inside quotes, where they become part of a cell. Whether a text is accepted, its
headers and the number of its rows do not depend on them. If no line of the text ends inside quotes,
the cells do not either. A byte-order mark in front of a text is taken for a character of the first
header.
-/

namespace TableTalk.Text

def withReturns (cs : List Char) : List Char :=
  cs.flatMap fun c => if c = '\n' then ['\r', '\n'] else [c]

@[simp] theorem withReturns_nil : withReturns [] = [] := rfl

theorem withReturns_newline (cs : List Char) :
    withReturns ('\n' :: cs) = '\r' :: '\n' :: withReturns cs := rfl

theorem withReturns_cons {c : Char} (h : c ≠ '\n') (cs : List Char) :
    withReturns (c :: cs) = c :: withReturns cs := by
  rw [withReturns, List.flatMap_cons, if_neg h]
  rfl

theorem withReturns_append (a b : List Char) :
    withReturns (a ++ b) = withReturns a ++ withReturns b :=
  List.flatMap_append

theorem withReturns_eq_self {cs : List Char} (h : '\n' ∉ cs) : withReturns cs = cs := by
  induction cs with
  | nil => rfl
  | cons c cs ih =>
    have hc : c ≠ '\n' := fun hc => h (hc ▸ List.mem_cons_self)
    rw [withReturns_cons hc, ih fun hmem => h (List.mem_cons_of_mem c hmem)]

theorem mem_withReturns {c : Char} {cs : List Char} (h : c ∈ cs) : c ∈ withReturns cs := by
  refine List.mem_flatMap.2 ⟨c, h, ?_⟩
  by_cases hc : c = '\n' <;> simp [hc]

theorem allBlank_withReturns (cs : List Char) : allBlank (withReturns cs) = allBlank cs := by
  induction cs with
  | nil => rfl
  | cons c cs ih =>
    by_cases hc : c = '\n'
    · rw [hc, withReturns_newline]
      exact ih
    · rw [withReturns_cons hc, allBlank, List.all_cons, ← allBlank, ih]
      rfl

theorem head?_withReturns {cs : List Char} (h : ∀ c ∈ cs.head?, isBlank c = false) :
    ∀ c ∈ (withReturns cs).head?, isBlank c = false := by
  cases cs with
  | nil => exact h
  | cons c cs =>
    have hc : c ≠ '\n' := by
      rintro rfl
      exact absurd (h '\n' rfl) (by decide)
    rw [withReturns_cons hc]
    exact h

theorem getLast?_withReturns {cs : List Char} (h : ∀ c ∈ cs.getLast?, isBlank c = false) :
    ∀ c ∈ (withReturns cs).getLast?, isBlank c = false := by
  rcases List.eq_nil_or_concat cs with rfl | ⟨front, c, rfl⟩
  · exact h
  · rw [List.concat_eq_append] at h ⊢
    have hc : c ≠ '\n' := by
      rintro rfl
      exact absurd (h '\n' (by simp)) (by decide)
    rw [withReturns_append, withReturns_cons hc, withReturns_nil]
    simpa using h

/-- Trimming takes off the carriage returns at the ends with the line feeds there. -/
theorem trimChars_withReturns (cs : List Char) :
    trimChars (withReturns cs) = withReturns (trimChars cs) := by
  obtain ⟨before, after, hbefore, hafter, hcs, hhead, hlast⟩ := exists_trimChars cs
  calc trimChars (withReturns cs)
      = trimChars (withReturns (before ++ (trimChars cs ++ after))) := by rw [← hcs]
    _ = trimChars (withReturns before ++ (withReturns (trimChars cs) ++ withReturns after)) := by
      rw [withReturns_append, withReturns_append]
    _ = withReturns (trimChars cs) :=
      trimChars_append ((allBlank_withReturns before).trans hbefore)
        ((allBlank_withReturns after).trans hafter) (head?_withReturns hhead)
        (getLast?_withReturns hlast)

theorem unifyNewlines_withReturns {cs : List Char} (h : '\r' ∉ cs) :
    unifyNewlines (withReturns cs) = cs := by
  induction cs with
  | nil => rfl
  | cons c cs ih =>
    have hrest := ih fun hmem => h (List.mem_cons_of_mem c hmem)
    by_cases hc : c = '\n'
    · rw [hc, withReturns_newline, unifyNewlines, hrest]
    · have hreturn : c ≠ '\r' := fun hr => h (hr ▸ List.mem_cons_self)
      rw [withReturns_cons hc, unifyNewlines, hrest]
      · rintro rest rfl -
        exact hreturn rfl
      · exact hreturn

end TableTalk.Text

namespace TableTalk.Csv

open Text

def Returned (cs cs' : List Char) : Prop :=
  ∃ w, allBlank w = true ∧ cs' = withReturns cs ++ w

namespace Returned

variable {cs cs' : List Char}

theorem cons {c : Char} (hc : c ≠ '\n') (h : Returned cs cs') : Returned (c :: cs) (c :: cs') := by
  obtain ⟨w, hw, rfl⟩ := h
  exact ⟨w, hw, by rw [withReturns_cons hc, List.cons_append]⟩

theorem newline (h : Returned cs cs') : Returned ('\n' :: cs) ('\r' :: '\n' :: cs') := by
  obtain ⟨w, hw, rfl⟩ := h
  exact ⟨w, hw, rfl⟩

theorem trimChars_eq (h : Returned cs cs') : trimChars cs' = withReturns (trimChars cs) := by
  obtain ⟨w, hw, rfl⟩ := h
  rw [trimChars_append_blank _ hw, trimChars_withReturns]

theorem allBlank_eq (h : Returned cs cs') : allBlank cs' = allBlank cs := by
  obtain ⟨w, hw, rfl⟩ := h
  rw [allBlank, List.all_append, ← allBlank, ← allBlank, allBlank_withReturns, hw, Bool.and_true]

theorem head?_ne_quote (h : Returned cs cs') (hcs : cs.head? ≠ some '"') :
    cs'.head? ≠ some '"' := by
  obtain ⟨w, hw, rfl⟩ := h
  cases cs with
  | nil =>
    intro hquote
    have hmem : '"' ∈ w := List.mem_of_mem_head? hquote
    exact absurd (List.all_eq_true.1 hw _ hmem) (by decide)
  | cons c cs =>
    by_cases hc : c = '\n'
    · rw [hc, withReturns_newline]
      simp
    · rw [withReturns_cons hc]
      simpa using hcs

end Returned

theorem scan_of_allBlank {w : List Char} (h : allBlank w = true) (inQuotes : Bool) :
    scan inQuotes w = ⟨w, [], inQuotes⟩ := by
  induction w with
  | nil => cases inQuotes <;> rfl
  | cons c w ih =>
    have hall := List.all_eq_true.1 h
    have hquote : c ≠ '"' := by
      rintro rfl
      exact absurd (hall '"' List.mem_cons_self) (by decide)
    have hcomma : c ≠ ',' := by
      rintro rfl
      exact absurd (hall ',' List.mem_cons_self) (by decide)
    rw [scan_plain hquote fun _ => hcomma, ih (List.all_eq_true.2 fun d hd =>
      hall d (List.mem_cons_of_mem c hd))]
    rfl

theorem forall₂_modifyHead {α β : Type} {R : α → β → Prop} {f : α → α} {g : β → β} {as : List α}
    {bs : List β} (h : List.Forall₂ R as bs) (hfg : ∀ a b, R a b → R (f a) (g b)) :
    List.Forall₂ R (as.modifyHead f) (bs.modifyHead g) := by
  cases h with
  | nil => exact .nil
  | cons hhead htail => exact .cons (hfg _ _ hhead) htail

theorem map_eq_map_of_forall₂ {α β γ : Type} {R : α → β → Prop} {f : α → γ} {g : β → γ}
    {as : List α} {bs : List β} (h : List.Forall₂ R as bs) (hfg : ∀ a b, R a b → g b = f a) :
    bs.map g = as.map f := by
  induction h with
  | nil => rfl
  | cons hhead htail ih => rw [List.map_cons, List.map_cons, hfg _ _ hhead, ih]

/-- Carriage returns in a record go to its fields along with the line feeds that they precede, and
white space behind the record to the last field. -/
theorem forall₂_fields_scan (inQuotes : Bool) (cs : List Char) {w : List Char}
    (hw : allBlank w = true) :
    List.Forall₂ Returned (scan inQuotes cs).fields
      (scan inQuotes (withReturns cs ++ w)).fields := by
  fun_induction scan inQuotes cs with
  | case1 inQuotes =>
    rw [withReturns_nil, List.nil_append, scan_of_allBlank hw]
    exact .cons ⟨w, hw, rfl⟩ .nil
  | case2 rest ih =>
    have hpair : withReturns ('"' :: '"' :: rest) ++ w =
        '"' :: '"' :: (withReturns rest ++ w) := rfl
    rw [hpair, scan_pair, Scan.fields_push, Scan.fields_push]
    exact forall₂_modifyHead ih fun _ _ => Returned.cons (by decide)
  | case3 inQuotes rest hpair ih =>
    have hquote : withReturns ('"' :: rest) ++ w = '"' :: (withReturns rest ++ w) := rfl
    rw [hquote]
    cases inQuotes with
    | false => rwa [scan_open]
    | true =>
      rw [scan_close]
      · exact ih
      · refine Returned.head?_ne_quote ⟨w, hw, rfl⟩ fun hhead => ?_
        obtain ⟨others, rfl⟩ := List.head?_eq_some_iff.1 hhead
        exact hpair others rfl rfl
  | case4 rest ih =>
    have hcomma : withReturns (',' :: rest) ++ w = ',' :: (withReturns rest ++ w) := rfl
    rw [hcomma, scan_comma, Scan.fields_cut, Scan.fields_cut]
    exact .cons ⟨[], rfl, rfl⟩ ih
  | case5 inQuotes c rest hpair hquote hcomma ih =>
    by_cases hc : c = '\n'
    · subst hc
      have hline : withReturns ('\n' :: rest) ++ w = '\r' :: '\n' :: (withReturns rest ++ w) := rfl
      rw [hline, scan_plain (by decide) (by simp), scan_plain (by decide) (by simp),
        Scan.fields_push, Scan.fields_push, Scan.fields_push, List.modifyHead_modifyHead]
      exact forall₂_modifyHead ih fun _ _ => Returned.newline
    · rw [withReturns_cons hc, List.cons_append, scan_plain hquote fun hq hcut => hcomma hq hcut,
        Scan.fields_push, Scan.fields_push]
      exact forall₂_modifyHead ih fun _ _ => Returned.cons hc

theorem fieldChars_returned {cs cs' : List Char} (h : Returned cs cs') :
    fieldChars cs' = (fieldChars cs).map withReturns := by
  obtain ⟨w, hw, rfl⟩ := h
  rw [fieldChars, fieldChars, List.map_map]
  exact map_eq_map_of_forall₂ (forall₂_fields_scan false cs hw) fun _ _ h => h.trimChars_eq

/-- The pieces between breaks, each with the carriage return in front of the line feed that ends
it. -/
theorem forall₂_cutOutside {before before' : List Char} (h : oddQuotes before' = oddQuotes before)
    (cs : List Char) :
    List.Forall₂ Returned (cutOutside '\n' before cs)
      (cutOutside '\n' before' (withReturns cs)) := by
  induction cs generalizing before before' with
  | nil => exact .cons ⟨[], rfl, rfl⟩ .nil
  | cons c cs ih =>
    by_cases hc : c = '\n'
    · -- The carriage return is no quote: the line feed behind it ends a piece if it did without it.
      subst hc
      have hnext : oddQuotes (before' ++ ['\r'] ++ ['\n']) = oddQuotes (before ++ ['\n']) := by
        rw [oddQuotes_concat_of_ne (by decide), oddQuotes_concat_of_ne (by decide),
          oddQuotes_concat_of_ne (by decide), h]
      have hrest := ih hnext
      have hparity : oddQuotes (before' ++ ['\r']) = oddQuotes before := by
        rw [oddQuotes_concat_of_ne (by decide), h]
      have hreturn : cutOutside '\n' before' (withReturns ('\n' :: cs)) =
          (cutOutside '\n' (before' ++ ['\r']) ('\n' :: withReturns cs)).modifyHead ('\r' :: ·) :=
        cutOutside_keep (by simp) _
      rw [hreturn]
      cases hodd : oddQuotes before with
      | true =>
        rw [hodd] at hparity
        rw [cutOutside_keep fun _ => oddQuotes_eq_true_iff.1 hodd,
          cutOutside_keep fun _ => oddQuotes_eq_true_iff.1 hparity, List.modifyHead_modifyHead]
        exact forall₂_modifyHead hrest fun _ _ => Returned.newline
      | false =>
        rw [hodd] at hparity
        rw [cutOutside_sep (oddQuotes_eq_false_iff.1 hodd),
          cutOutside_sep (oddQuotes_eq_false_iff.1 hparity)]
        exact .cons ⟨['\r'], rfl, rfl⟩ hrest
    · have hnext : oddQuotes (before' ++ [c]) = oddQuotes (before ++ [c]) := by
        rw [oddQuotes_append, oddQuotes_append, h]
      have hrest := ih hnext
      rw [withReturns_cons hc, cutOutside_keep fun hline => absurd hline hc,
        cutOutside_keep fun hline => absurd hline hc]
      exact forall₂_modifyHead hrest fun _ _ => Returned.cons hc

theorem forall₂_recordPieces (cs : List Char) :
    List.Forall₂ Returned (recordPieces cs) (recordPieces (withReturns cs)) := by
  refine List.rel_filter (fun piece piece' h => ?_) (forall₂_cutOutside rfl cs)
  simp only [h.allBlank_eq]

theorem headerLine_cons {c : Char} (h : c ≠ '\n') (cs : List Char) :
    headerLine (c :: cs) = c :: headerLine cs := by
  rw [headerLine, List.takeWhile_cons_of_pos (by simpa using h)]
  rfl

theorem body_cons {c : Char} (h : c ≠ '\n') (cs : List Char) : body (c :: cs) = body cs := by
  rw [body, List.dropWhile_cons_of_pos (by simpa using h)]
  rfl

theorem headerLine_withReturns (cs : List Char) :
    Returned (headerLine cs) (headerLine (withReturns cs)) := by
  induction cs with
  | nil => exact ⟨[], rfl, rfl⟩
  | cons c cs ih =>
    by_cases hc : c = '\n'
    · rw [hc]
      exact ⟨['\r'], rfl, rfl⟩
    · rw [withReturns_cons hc, headerLine_cons hc, headerLine_cons hc]
      exact ih.cons hc

theorem body_withReturns (cs : List Char) : body (withReturns cs) = withReturns (body cs) := by
  induction cs with
  | nil => rfl
  | cons c cs ih =>
    by_cases hc : c = '\n'
    · rw [hc]
      rfl
    · rw [withReturns_cons hc, body_cons hc, body_cons hc, ih]

theorem headerChars_withReturns (cs : List Char) :
    headerChars (withReturns cs) = headerChars cs := by
  rw [headerChars, fieldChars_returned (headerLine_withReturns cs), ← headerChars]
  exact map_eq_self fun header hheader => withReturns_eq_self (notMem_headerChars hheader)

theorem fitRow_map_withReturns (width : ℕ) (fields : List (List Char)) :
    fitRow width (fields.map withReturns) = (fitRow width fields).map withReturns := by
  rw [fitRow, fitRow, List.map_take, List.map_append, List.map_replicate, List.length_map,
    withReturns_nil]

theorem rowChars_withReturns (cs : List Char) :
    rowChars (withReturns cs) = (rowChars cs).map fun row => row.map withReturns := by
  rw [rowChars, rowChars, body_withReturns, headerChars_withReturns, List.map_map]
  refine map_eq_map_of_forall₂ (forall₂_recordPieces (body cs)) fun piece piece' h => ?_
  rw [fieldChars_returned h, fitRow_map_withReturns]
  rfl

def returned (text : String) : String :=
  String.ofList (withReturns text.toList)

theorem tableOf_withReturns (headers : List (List Char)) (rows : List (List (List Char))) :
    tableOf headers (rows.map fun row => row.map withReturns) =
      { tableOf headers rows with
        rows := (tableOf headers rows).rows.map fun row => row.map (Option.map returned) } := by
  simp only [tableOf, List.map_map, Function.comp_def, Option.map_some, returned,
    String.toList_ofList]

/-- Carriage returns in front of the line feeds of a text leave a blank text blank. Of any other
text they change neither the headers nor the number of rows, and in the cells they stand in front of
the line feeds there. -/
theorem parse_returned (text : String) :
    (parse text = .error .noData ∧ parse (returned text) = .error .noData) ∨
      ∃ t t', parse text = .ok t ∧ parse (returned text) = .ok t' ∧ t'.headers = t.headers ∧
        t'.rowCount = t.rowCount ∧
        t'.rows = t.rows.map fun row => row.map fun cell => cell.map returned := by
  have hreturned : (returned text).toList = withReturns text.toList := String.toList_ofList
  have hsame := allBlank_withReturns text.toList
  rw [parse, parse, hreturned]
  cases hblank : allBlank text.toList with
  | true =>
    exact Or.inl ⟨parseChars_of_allBlank hblank, parseChars_of_allBlank (hsame.trans hblank)⟩
  | false =>
    have hblank' := hsame.trans hblank
    refine Or.inr ⟨_, _, parseChars_eq_tableOf hblank, parseChars_eq_tableOf hblank', ?_⟩
    rw [headerChars_withReturns, rowChars_withReturns, tableOf_withReturns]
    exact ⟨rfl, List.length_map _, rfl⟩

/-- The lines of a text end alike, in line feeds or in carriage returns with line feeds, there is no
other carriage return, and no line ends inside quotes: behind the headers, which are one line
whatever their quotes, every line feed comes after an even number of quotes. -/
structure HasPlainBreaks (cs : List Char) : Prop where
  alike : '\r' ∉ cs ∨ ∃ base, '\r' ∉ base ∧ cs = withReturns base
  outside : ∀ before after, body cs = before ++ '\n' :: after → before.count '"' % 2 = 0

/-- The pieces are free of the separator exactly if each separator comes after an even number of
quotes. -/
theorem notMem_cutOutside_iff {sep : Char} {before cs : List Char} :
    (∀ piece ∈ cutOutside sep before cs, sep ∉ piece) ↔
      ∀ a b, cs = a ++ sep :: b → (before ++ a).count '"' % 2 = 0 := by
  induction cs generalizing before with
  | nil => simp [cutOutside]
  | cons c rest ih =>
    have hfront : (∀ a b, c :: rest = a ++ sep :: b → (before ++ a).count '"' % 2 = 0) ↔
        (c = sep → before.count '"' % 2 = 0) ∧
          ∀ a b, rest = a ++ sep :: b → (before ++ [c] ++ a).count '"' % 2 = 0 := by
      constructor
      · intro h
        refine ⟨fun hc => by simpa using h [] rest (by rw [hc]; rfl), fun a b hrest => ?_⟩
        simpa using h (c :: a) b (by rw [hrest]; rfl)
      · rintro ⟨hhere, hrest⟩ a b hab
        cases a with
        | nil => simpa using hhere (List.cons.inj hab).1
        | cons d a =>
          obtain ⟨rfl, htail⟩ := List.cons.inj hab
          simpa using hrest a b htail
    rw [hfront, ← ih]
    have hne : cutOutside sep (before ++ [c]) rest ≠ [] := cutOutside_ne_nil _ rest
    obtain ⟨first, others, hcut⟩ := List.exists_cons_of_ne_nil hne
    by_cases hc : c = sep
    · by_cases heven : before.count '"' % 2 = 0
      · subst hc
        rw [cutOutside_sep heven]
        simp [heven]
      · rw [cutOutside_keep fun _ => by omega, hcut]
        simp [hc, heven]
    · rw [cutOutside_keep fun h => absurd h hc, hcut]
      simp [hc, Ne.symm hc]

theorem notMem_fieldChars {c : Char} {record : List Char} (h : c ∉ record) :
    ∀ field ∈ fieldChars record, c ∉ field := by
  intro field hfield hmem
  obtain ⟨raw, rfl, hraw⟩ := exists_of_mem_fieldChars hfield
  exact h (hraw ((infix_trimChars raw).subset hmem))

theorem notMem_rowChars {cs : List Char} (h : ∀ piece ∈ recordPieces (body cs), '\n' ∉ piece) :
    ∀ row ∈ rowChars cs, ∀ cell ∈ row, '\n' ∉ cell := by
  intro row hrow cell hcell
  obtain ⟨piece, hpiece, rfl⟩ := List.mem_map.1 hrow
  rcases mem_fitRow hcell with hfield | rfl
  · exact notMem_fieldChars (h piece hpiece) cell hfield
  · exact List.not_mem_nil

theorem notMem_of_forall₂ {pieces pieces' : List (List Char)}
    (h : List.Forall₂ Returned pieces pieces') (hpieces : ∀ piece ∈ pieces', '\n' ∉ piece) :
    ∀ piece ∈ pieces, '\n' ∉ piece := by
  induction h with
  | nil => exact hpieces
  | cons hhead htail ih =>
    obtain ⟨w, -, rfl⟩ := hhead
    obtain ⟨hfirst, hothers⟩ := List.forall_mem_cons.1 hpieces
    refine List.forall_mem_cons.2 ⟨fun hmem => hfirst ?_, ih hothers⟩
    exact List.mem_append_left w (mem_withReturns hmem)

theorem HasPlainBreaks.notMem_recordPieces {cs : List Char} (h : HasPlainBreaks cs) :
    ∀ piece ∈ recordPieces (body cs), '\n' ∉ piece := by
  intro piece hpiece
  exact notMem_cutOutside_iff.2 h.outside piece (List.mem_of_mem_filter hpiece)

theorem parseChars_congr {cs cs' : List Char} (hblank : allBlank cs = allBlank cs')
    (hheaders : headerChars cs = headerChars cs') (hrows : rowChars cs = rowChars cs') :
    parseChars cs = parseChars cs' := by
  cases h : allBlank cs with
  | true => rw [parseChars_of_allBlank h, parseChars_of_allBlank (hblank.symm.trans h)]
  | false =>
    rw [parseChars_eq_tableOf h, parseChars_eq_tableOf (hblank.symm.trans h), hheaders, hrows]

/-- Making all line endings line feeds does not change the table that a text is read as. -/
theorem HasPlainBreaks.parseChars_unifyNewlines {cs : List Char} (h : HasPlainBreaks cs) :
    parseChars (unifyNewlines cs) = parseChars cs := by
  have hpieces := h.notMem_recordPieces
  rcases h.alike with hfree | ⟨base, hfree, rfl⟩
  · rw [unifyNewlines_eq_self hfree]
  · rw [unifyNewlines_withReturns hfree]
    rw [body_withReturns] at hpieces
    have hcells := notMem_rowChars (notMem_of_forall₂ (forall₂_recordPieces (body base)) hpieces)
    refine parseChars_congr (allBlank_withReturns base).symm (headerChars_withReturns base).symm ?_
    rw [rowChars_withReturns]
    symm
    refine map_eq_self fun row hrow => map_eq_self fun cell hcell => ?_
    exact withReturns_eq_self (hcells row hrow cell hcell)

theorem body_unmarked (cs : List Char) : body (unmarked cs) = body cs := by
  by_cases h : cs.head? = some markChar
  · obtain ⟨rest, rfl⟩ := List.head?_eq_some_iff.1 h
    rw [unmarked, if_pos h, body_cons (by decide)]
    rfl
  · rw [unmarked, if_neg h]

theorem unmarked_withReturns (cs : List Char) :
    unmarked (withReturns cs) = withReturns (unmarked cs) := by
  cases cs with
  | nil => rfl
  | cons c cs =>
    by_cases hc : c = '\n'
    · subst hc
      rfl
    · rw [withReturns_cons hc, unmarked, unmarked]
      by_cases hmark : c = markChar
      · simp [hmark]
      · simp [hmark, withReturns_cons hc]

theorem HasPlainBreaks.unmarked {cs : List Char} (h : HasPlainBreaks cs) :
    HasPlainBreaks (unmarked cs) where
  alike := by
    rcases h.alike with hfree | ⟨base, hfree, rfl⟩
    · exact Or.inl fun hmem => hfree (unmarked_subset cs hmem)
    · refine Or.inr ⟨Text.unmarked base, fun hmem => hfree (unmarked_subset base hmem), ?_⟩
      exact unmarked_withReturns base
  outside := by
    rw [body_unmarked]
    exact h.outside

theorem headerChars_mark (cs : List Char) : ∃ first others,
    headerChars (markChar :: cs) = (markChar :: first) :: others ∧
      headerChars cs = trimChars first :: others := by
  let s := scan false (headerLine cs)
  have hscan : scan false (markChar :: headerLine cs) = s.push markChar :=
    scan_plain (by decide) (by decide) _
  -- The mark is no white space, so it keeps what stands behind it from being trimmed.
  have hmarked : trimChars (markChar :: s.field) = markChar :: trimRight s.field := by
    have hblank : isBlank markChar = false := by decide
    rw [trimChars, trimLeft_eq_self (by simpa using hblank), trimRight_cons hblank]
  have hplain : trimChars (trimRight s.field) = trimChars s.field := by
    obtain ⟨w, hw, hfield⟩ := exists_trimRight s.field
    rw [← trimChars_append_blank _ hw, ← hfield]
  refine ⟨trimRight s.field, s.others.map trimChars, ?_, ?_⟩
  · rw [headerChars, headerLine_cons (by decide), fieldChars, hscan, ← hmarked]
    rfl
  · rw [hplain]
    rfl

theorem rowChars_mark (cs : List Char) : rowChars (markChar :: cs) = rowChars cs := by
  obtain ⟨first, others, hmarked, hplain⟩ := headerChars_mark cs
  rw [rowChars, rowChars, body_cons (by decide), hmarked, hplain]
  rfl

/-- A text with a mark in front is always accepted, with the mark in the first header. Without the
mark the other headers and the rows are the same, unless nothing is left but white space. -/
theorem parseChars_mark (cs : List Char) : ∃ first others rows,
    parseChars (markChar :: cs) = .ok ⟨("\uFEFF" ++ first) :: others, rows⟩ ∧
      parseChars cs =
        if allBlank cs then .error .noData else .ok ⟨trim first :: others, rows⟩ := by
  obtain ⟨first, others, hmarked, hplain⟩ := headerChars_mark cs
  have hblank : allBlank (markChar :: cs) = false := rfl
  refine ⟨String.ofList first, others.map String.ofList, (tableOf [] (rowChars cs)).rows, ?_, ?_⟩
  · have hfirst : "\uFEFF" ++ String.ofList first = String.ofList (markChar :: first) := by
      rw [← String.ofList_append]
      rfl
    rw [parseChars_eq_tableOf hblank, hmarked, rowChars_mark, hfirst]
    rfl
  · cases h : allBlank cs with
    | true => exact parseChars_of_allBlank h
    | false =>
      rw [parseChars_eq_tableOf h, hplain, trim, String.toList_ofList]
      rfl

end TableTalk.Csv

import TableTalk.Proofs.Csv.Scan
import TableTalk.Proofs.Text.Search

/-!
# Records as pieces between breaks

A text can be cut in one go at every separator that comes after an even number of double quotes.
`cutOutside` is this single scan. Grouping lines into records by the quotes counted in each gives
the pieces that it cuts at line feeds, blank ones left out, and a scan of any piece but the last
ends outside quotes.
-/

namespace TableTalk.Csv

open Text

/-- The pieces of a text between the separators that come after an even number of double quotes;
`before` is what stands in front of the text. -/
def cutOutside (sep : Char) (before : List Char) : List Char → List (List Char)
  | [] => [[]]
  | c :: rest =>
    if c = sep ∧ before.count '"' % 2 = 0 then [] :: cutOutside sep (before ++ [c]) rest
    else (cutOutside sep (before ++ [c]) rest).modifyHead (c :: ·)

def headerLine (cs : List Char) : List Char :=
  cs.takeWhile (· ≠ '\n')

def body (cs : List Char) : List Char :=
  (cs.dropWhile (· ≠ '\n')).drop 1

/-- The pieces of a text between record breaks, without the blank ones. -/
def recordPieces (cs : List Char) : List (List Char) :=
  (cutOutside '\n' [] cs).filter fun piece => !allBlank piece

section Cutting

variable {sep : Char}

theorem cutOutside_ne_nil (before cs : List Char) : cutOutside sep before cs ≠ [] := by
  induction cs generalizing before with
  | nil => simp [cutOutside]
  | cons c rest ih =>
    rw [cutOutside]
    split
    · simp
    · cases h : cutOutside sep (before ++ [c]) rest with
      | nil => exact absurd h (ih _)
      | cons piece pieces => simp

theorem cutOutside_sep {before : List Char} (h : before.count '"' % 2 = 0) (rest : List Char) :
    cutOutside sep before (sep :: rest) = [] :: cutOutside sep (before ++ [sep]) rest := by
  rw [cutOutside, if_pos ⟨rfl, h⟩]

/-- A character that is no separator, or one inside quotes, stays in its piece. -/
theorem cutOutside_keep {c : Char} {before : List Char}
    (h : c = sep → before.count '"' % 2 = 1) (rest : List Char) :
    cutOutside sep before (c :: rest) =
      (cutOutside sep (before ++ [c]) rest).modifyHead (c :: ·) := by
  rw [cutOutside, if_neg (fun hbreak => by have := h hbreak.1; omega)]

theorem modifyHead_nil_append (pieces : List (List Char)) :
    pieces.modifyHead (([] : List Char) ++ ·) = pieces := by
  cases pieces <;> rfl

theorem modifyHead_append (a b : List Char) (pieces : List (List Char)) :
    (pieces.modifyHead (b ++ ·)).modifyHead (a ++ ·) = pieces.modifyHead ((a ++ b) ++ ·) := by
  cases pieces <;> simp

/-- A text without a separator goes to the first piece as a whole. -/
theorem cutOutside_append {a : List Char} (ha : sep ∉ a) (before rest : List Char) :
    cutOutside sep before (a ++ rest) =
      (cutOutside sep (before ++ a) rest).modifyHead (a ++ ·) := by
  induction a generalizing before with
  | nil => cases h : cutOutside sep before rest <;> simp [h]
  | cons c a ih =>
    have hc : c ≠ sep := fun h => ha (h ▸ List.mem_cons_self)
    have hstep := ih (fun h => ha (List.mem_cons_of_mem c h)) (before ++ [c])
    rw [List.cons_append, cutOutside_keep (fun h => absurd h hc), hstep, List.append_assoc]
    exact modifyHead_append [c] a _

theorem cutOutside_of_notMem {cs : List Char} (h : sep ∉ cs) (before : List Char) :
    cutOutside sep before cs = [cs] := by
  simpa [cutOutside] using cutOutside_append h before []

theorem prefix_of_cutOutside {before cs piece : List Char} {pieces : List (List Char)}
    (h : cutOutside sep before cs = piece :: pieces) : piece <+: cs := by
  induction cs generalizing before piece pieces with
  | nil =>
    obtain ⟨rfl, -⟩ := List.cons.inj h
    exact List.prefix_rfl
  | cons c rest ih =>
    rw [cutOutside] at h
    split at h
    · obtain ⟨rfl, -⟩ := List.cons.inj h
      exact List.nil_prefix
    · cases hrest : cutOutside sep (before ++ [c]) rest with
      | nil => exact absurd hrest (cutOutside_ne_nil _ _)
      | cons first others =>
        rw [hrest] at h
        obtain ⟨rfl, -⟩ := List.cons.inj h
        exact List.cons_prefix_cons.2 ⟨rfl, ih hrest⟩

/-- What precedes a text counts only by whether its quotes are odd in number. -/
theorem cutOutside_congr {before before' : List Char}
    (h : oddQuotes before = oddQuotes before') (cs : List Char) :
    cutOutside sep before cs = cutOutside sep before' cs := by
  induction cs generalizing before before' with
  | nil => rfl
  | cons c rest ih =>
    have hnext : oddQuotes (before ++ [c]) = oddQuotes (before' ++ [c]) := by
      rw [oddQuotes_append, oddQuotes_append, h]
    have hparity : before.count '"' % 2 = 0 ↔ before'.count '"' % 2 = 0 := by
      rw [← oddQuotes_eq_false_iff, ← oddQuotes_eq_false_iff, h]
    rw [cutOutside, cutOutside, ih hnext]
    simp only [hparity]

theorem cutOutside_append_sep {before a : List Char}
    (h : oddQuotes (before ++ a) = false) (b : List Char) :
    cutOutside sep before (a ++ sep :: b) =
      cutOutside sep before a ++ cutOutside sep (before ++ a ++ [sep]) b := by
  induction a generalizing before with
  | nil =>
    rw [List.append_nil] at h
    rw [List.nil_append, cutOutside_sep (oddQuotes_eq_false_iff.1 h), List.append_nil]
    rfl
  | cons c a ih =>
    have hnext : oddQuotes (before ++ [c] ++ a) = false := by
      rw [List.append_assoc]
      exact h
    rw [List.cons_append, cutOutside, cutOutside, ih hnext]
    split
    · rw [List.append_assoc before]
      rfl
    · have hne : cutOutside sep (before ++ [c]) a ≠ [] := cutOutside_ne_nil _ a
      obtain ⟨first, others, hfirst⟩ := List.exists_cons_of_ne_nil hne
      rw [hfirst, List.append_assoc before]
      rfl

end Cutting

def carried : Option (List Char) → List Char
  | none => []
  | some start => start ++ ['\n']

theorem records_cons (pending : Option (List Char)) (line : List Char) (lines : List (List Char)) :
    records pending (line :: lines) =
      if pending = none ∧ allBlank line = true then records none lines
      else if oddQuotes (carried pending ++ line) then
        records (some (carried pending ++ line)) lines
      else (carried pending ++ line) :: records none lines := by
  cases pending with
  | none =>
    by_cases hb : allBlank line = true
    · simp [records, hb]
    · by_cases hq : oddQuotes line = true <;> simp [records, carried, hb, hq]
  | some start => simp [records, carried]

theorem allBlank_carried_append {pending : Option (List Char)} {line : List Char}
    (hodd : ∀ start, pending = some start → start.count '"' % 2 = 1)
    (hnot : ¬ (pending = none ∧ allBlank line = true)) :
    allBlank (carried pending ++ line) = false := by
  cases pending with
  | none => simpa [carried] using hnot
  | some start =>
    have hstart := allBlank_eq_false_of_odd (hodd start rfl)
    simp only [allBlank, carried, List.all_append, Bool.and_eq_false_iff] at hstart ⊢
    exact Or.inl (Or.inl hstart)

section Lines

variable {pending : Option (List Char)} {line before rest : List Char} {lines : List (List Char)}

theorem records_single (hline : '\n' ∉ line)
    (hodd : ∀ start, pending = some start → start.count '"' % 2 = 1) :
    records pending [line] =
      ((cutOutside '\n' before line).modifyHead (carried pending ++ ·)).filter fun piece =>
        !allBlank piece := by
  rw [records_cons, cutOutside_of_notMem hline, List.modifyHead_cons]
  by_cases hskip : pending = none ∧ allBlank line = true
  · obtain ⟨rfl, hb⟩ := hskip
    simp [records, carried, hb]
  · simp [hskip, allBlank_carried_append hodd hskip, records]

/-- A line that leaves a quote open goes to the front of the piece behind it. -/
theorem records_cons_open (hline : '\n' ∉ line)
    (hcount : (before ++ line).count '"' % 2 = (carried pending ++ line).count '"' % 2)
    (hopen : oddQuotes (carried pending ++ line) = true)
    (hlines : records (some (carried pending ++ line)) lines =
      ((cutOutside '\n' (before ++ line ++ ['\n']) rest).modifyHead
        (carried pending ++ line ++ ['\n'] ++ ·)).filter fun piece => !allBlank piece) :
    records pending (line :: lines) =
      ((cutOutside '\n' before (line ++ '\n' :: rest)).modifyHead
        (carried pending ++ ·)).filter fun piece => !allBlank piece := by
  have hjoined := oddQuotes_eq_true_iff.1 hopen
  have hskip : ¬ (pending = none ∧ allBlank line = true) := by
    rintro ⟨rfl, hb⟩
    rw [carried, List.nil_append, count_quote_of_allBlank hb] at hjoined
    omega
  rw [records_cons, if_neg hskip, if_pos hopen, hlines, cutOutside_append hline, modifyHead_append,
    cutOutside_keep (fun _ => hcount.trans hjoined)]
  exact congrArg _ (modifyHead_append _ ['\n'] _).symm

/-- A line that leaves no quote open ends a piece. -/
theorem records_cons_closed (hline : '\n' ∉ line)
    (hodd : ∀ start, pending = some start → start.count '"' % 2 = 1)
    (hcount : (before ++ line).count '"' % 2 = (carried pending ++ line).count '"' % 2)
    (hclosed : oddQuotes (carried pending ++ line) = false)
    (hlines : records none lines =
      (cutOutside '\n' (before ++ line ++ ['\n']) rest).filter fun piece => !allBlank piece) :
    records pending (line :: lines) =
      ((cutOutside '\n' before (line ++ '\n' :: rest)).modifyHead
        (carried pending ++ ·)).filter fun piece => !allBlank piece := by
  have heven := hcount.trans (oddQuotes_eq_false_iff.1 hclosed)
  rw [records_cons, hclosed, hlines, cutOutside_append hline, modifyHead_append,
    cutOutside_sep heven, List.modifyHead_cons]
  by_cases hskip : pending = none ∧ allBlank line = true
  · obtain ⟨rfl, hb⟩ := hskip
    simp [carried, hb]
  · simp [hskip, allBlank_carried_append hodd hskip]

/-- Grouping lines from any state: an open record holds an odd number of quotes, as does what
precedes the lines, and it goes to the front of the first piece. -/
theorem records_lines (hne : lines ≠ []) (hfree : ∀ line ∈ lines, '\n' ∉ line)
    (pending : Option (List Char)) (before : List Char)
    (hodd : ∀ start, pending = some start → start.count '"' % 2 = 1)
    (hpar : before.count '"' % 2 = (carried pending).count '"' % 2) :
    records pending lines =
      ((cutOutside '\n' before (['\n'].intercalate lines)).modifyHead
        (carried pending ++ ·)).filter fun piece => !allBlank piece := by
  induction lines generalizing pending before with
  | nil => exact absurd rfl hne
  | cons line lines ih =>
    have hline : '\n' ∉ line := hfree line List.mem_cons_self
    have hcount : (before ++ line).count '"' % 2 = (carried pending ++ line).count '"' % 2 := by
      simp only [List.count_append]
      omega
    cases lines with
    | nil =>
      rw [List.intercalate_singleton]
      exact records_single hline hodd
    | cons next more =>
      have hih := ih (by simp) (fun l hl => hfree l (List.mem_cons_of_mem _ hl))
      have hbreak : (before ++ line ++ ['\n']).count '"' = (before ++ line).count '"' := by
        simp [List.count_append]
      rw [List.intercalate_cons_cons, List.append_assoc, List.singleton_append]
      cases hq : oddQuotes (carried pending ++ line) with
      | true =>
        refine records_cons_open hline hcount hq (hih (some (carried pending ++ line)) _ ?_ ?_)
        · intro start hs
          exact Option.some.inj hs ▸ oddQuotes_eq_true_iff.1 hq
        · rw [hbreak, hcount]
          simp [carried]
      | false =>
        have hrest := hih none (before ++ line ++ ['\n']) (by simp)
          (by rw [hbreak, hcount, oddQuotes_eq_false_iff.1 hq]; rfl)
        rw [carried, modifyHead_nil_append] at hrest
        exact records_cons_closed hline hodd hcount hq hrest

end Lines

theorem records_splitOn (cs : List Char) : records none (splitOn '\n' cs) = recordPieces cs := by
  have hjoin : ['\n'].intercalate (splitOn '\n' cs) = cs := by
    rw [splitOn_eq, List.intercalate_splitOn]
  have hlines := records_lines (splitOn_ne_nil '\n' cs) (fun _ => notMem_of_mem_splitOn)
    none [] (by simp) rfl
  rw [hlines, hjoin, carried, modifyHead_nil_append, recordPieces]

/-- A piece that a break ends holds, with what precedes it, an even number of quotes; the pieces
after the first hold an even number themselves, up to the last. -/
theorem even_of_cutOutside {sep : Char} (hsep : sep ≠ '"') {before cs piece : List Char}
    {pieces : List (List Char)} (h : cutOutside sep before cs = piece :: pieces) :
    (pieces ≠ [] → (before ++ piece).count '"' % 2 = 0) ∧
      ∀ p ∈ pieces.dropLast, p.count '"' % 2 = 0 := by
  induction cs generalizing before piece pieces with
  | nil =>
    obtain ⟨rfl, rfl⟩ : [] = piece ∧ [] = pieces := by simpa [cutOutside] using h
    simp
  | cons c rest ih =>
    cases hrest : cutOutside sep (before ++ [c]) rest with
    | nil => exact absurd hrest (cutOutside_ne_nil _ _)
    | cons first others =>
      obtain ⟨hfirst, hothers⟩ := ih hrest
      rw [cutOutside, hrest] at h
      by_cases hbreak : c = sep ∧ before.count '"' % 2 = 0
      · rw [if_pos hbreak] at h
        obtain ⟨rfl, rfl⟩ : [] = piece ∧ first :: others = pieces := by simpa using h
        obtain ⟨rfl, heven⟩ := hbreak
        refine ⟨fun _ => by simpa using heven, ?_⟩
        intro p hp
        cases others with
        | nil => simp at hp
        | cons second more =>
          rcases List.mem_cons.1 hp with rfl | hp
          · have hc := hfirst (by simp)
            simp only [List.count_append, List.count_singleton, beq_iff_eq, if_neg hsep] at hc
            omega
          · exact hothers p hp
      · rw [if_neg hbreak] at h
        obtain ⟨rfl, rfl⟩ : c :: first = piece ∧ others = pieces := by simpa using h
        exact ⟨fun hne => by simpa using hfirst hne, hothers⟩

/-- A scan of a piece ends outside quotes unless the piece is the last. -/
theorem isOpen_of_mem_dropLast {sep : Char} (hsep : sep ≠ '"') {cs piece : List Char}
    (h : piece ∈ (cutOutside sep [] cs).dropLast) : (scan false piece).isOpen = false := by
  rw [scan_isOpen, Bool.false_xor, oddQuotes_eq_false_iff]
  cases hcut : cutOutside sep [] cs with
  | nil => exact absurd hcut (cutOutside_ne_nil _ _)
  | cons first others =>
    obtain ⟨hfirst, hothers⟩ := even_of_cutOutside hsep hcut
    rw [hcut] at h
    cases others with
    | nil => simp at h
    | cons second more =>
      rcases List.mem_cons.1 h with rfl | h
      · simpa using hfirst (by simp)
      · exact hothers piece h

theorem splitOn_eq_headerLine_cons (cs : List Char) :
    splitOn '\n' cs =
      headerLine cs :: if '\n' ∈ cs then splitOn '\n' (body cs) else [] := by
  induction cs with
  | nil => rfl
  | cons c rest ih =>
    rw [splitOn]
    by_cases hc : c = '\n'
    · simp [hc, headerLine, body]
    · have hh : headerLine (c :: rest) = c :: headerLine rest := by simp [headerLine, hc]
      have hb : body (c :: rest) = body rest := by simp [body, hc]
      rw [if_neg hc, ih, hh, hb]
      simp [Ne.symm hc]

theorem body_of_notMem {cs : List Char} (h : '\n' ∉ cs) : body cs = [] := by
  have hdrop : cs.dropWhile (· ≠ '\n') = [] := by
    rw [List.dropWhile_eq_nil_iff]
    exact fun c hc => by simpa using fun he : c = '\n' => h (he ▸ hc)
  rw [body, hdrop, List.drop_nil]

/-- The rows of a text come from the record pieces of what follows its first line. -/
theorem parseChars_eq_pieces {cs : List Char} (h : allBlank cs = false) :
    parseChars cs = .ok (tableOf (fieldChars (headerLine cs))
      ((recordPieces (body cs)).map fun piece =>
        fitRow (fieldChars (headerLine cs)).length (fieldChars piece))) := by
  have hrecords : records none (if '\n' ∈ cs then splitOn '\n' (body cs) else []) =
      recordPieces (body cs) := by
    by_cases hmem : '\n' ∈ cs
    · rw [if_pos hmem, records_splitOn]
    · rw [if_neg hmem, body_of_notMem hmem]
      rfl
  simp only [parseChars, h, splitOn_eq_headerLine_cons cs, hrecords, Bool.false_eq_true, if_false]

/-- Reading a text that is not blank: the headers are the fields of its first line, and the rows are
the fields of the pieces of the rest between record breaks. A row has as many fields as there are
headers: further ones are left out, and empty ones stand for those that are missing. All pieces but
the last of the text leave no quote open. -/
theorem parse_eq_pieces (text : String) (h : allBlank text.toList = false) :
    parse text = .ok (tableOf (fieldChars (headerLine text.toList))
        ((recordPieces (body text.toList)).map fun piece =>
          (fieldChars piece).take (fieldChars (headerLine text.toList)).length ++
            List.replicate ((fieldChars (headerLine text.toList)).length -
              (fieldChars piece).length) [])) ∧
      ∀ piece ∈ (cutOutside '\n' [] (body text.toList)).dropLast,
        (scan false piece).isOpen = false := by
  refine ⟨?_, fun piece hp => isOpen_of_mem_dropLast (by decide) hp⟩
  simp only [← fitRow_eq]
  exact parseChars_eq_pieces h

/-- A quoted line feed, a blank line, a row that is too short, one that is too long and a quote left
open at the end. -/
theorem parse_eq_pieces_open_at_end :
    allBlank "a,b\n1,\"x\ny\"\n \n2\n3,4,5\n6,\"z\nw".toList = false ∧
      parse "a,b\n1,\"x\ny\"\n \n2\n3,4,5\n6,\"z\nw" =
        .ok ⟨["a", "b"], [[some "1", some "x\ny"], [some "2", some ""], [some "3", some "4"],
          [some "6", some "z\nw"]]⟩ :=
  have h : allBlank "a,b\n1,\"x\ny\"\n \n2\n3,4,5\n6,\"z\nw".toList = false := by decide
  ⟨h, (parse_eq_pieces _ h).1.trans (by decide)⟩

end TableTalk.Csv

import Mathlib.Algebra.GroupWithZero.Nat
import Mathlib.Data.List.Basic
import Mathlib.Data.List.Forall2
import Mathlib.Order.Bounds.Basic
import TableTalk.Chat.Grid
import TableTalk.Proofs.Failure
import TableTalk.Proofs.Table.Records
import TableTalk.Proofs.Text.Search

/-!
# Aligned columns

A table on the screen is a line of headers, a rule, the first rows and, if rows are left out, their
number. Each column is as wide as the longest text shown in it. The lines lose the white space at
their ends, which is all spaces if the texts have none at theirs: with the spaces put back, each
line is as long as the rule, and its bars stand where the crosses of the rule are.
-/

namespace TableTalk.Chat

open Text

theorem length_clip_le (cs : List Char) : (clip cs).length ≤ cellWidth := by
  unfold clip
  dsimp only
  split
  · assumption
  · rw [List.length_append, List.length_take]
    simp only [cellWidth, List.length_cons, List.length_nil]
    omega

theorem getLast?_clip {cs : List Char} (h : ∀ c ∈ cs.getLast?, isBlank c = false) :
    ∀ c ∈ (clip cs).getLast?, isBlank c = false := by
  unfold clip
  dsimp only
  split
  · intro c hc
    rw [List.getLast?_map] at hc
    obtain ⟨d, hd, rfl⟩ := Option.mem_map.1 hc
    have hline : d ≠ '\n' := by
      rintro rfl
      exact absurd (h _ hd) (by decide)
    rw [if_neg hline]
    exact h d hd
  · rw [List.getLast?_append_of_ne_nil _ (by simp)]
    simp [isBlank]

structure IsNeat (v : Json) : Prop where
  shown : (Value.ofJson v).hasHugeInt = false
  trimmed : trim v.display = v.display

instance (v : Json) : Decidable (IsNeat v) :=
  decidable_of_iff ((Value.ofJson v).hasHugeInt = false ∧ trim v.display = v.display)
    ⟨fun h => ⟨h.1, h.2⟩, fun h => ⟨h.1, h.2⟩⟩

/-- A text shows a value. Nothing is shown for null. Line breaks are shown as spaces, and of a text
of more than 40 characters the first 37 are shown with three dots behind them. -/
inductive IsShown : Json → List Char → Prop
  | null : IsShown .null []
  | short {v : Json} : v ≠ .null → v.display.toList.length ≤ 40 →
      IsShown v (v.display.toList.map fun c => if c = '\n' then ' ' else c)
  | long {v : Json} : v ≠ .null → 40 < v.display.toList.length →
      IsShown v ((v.display.toList.take 37).map (fun c => if c = '\n' then ' ' else c) ++
        ['.', '.', '.'])

def shownText : Json → List Char
  | .null => []
  | v => clip v.display.toList

theorem shownText_of_ne_null {v : Json} (h : v ≠ .null) : shownText v = clip v.display.toList := by
  cases v with
  | null => exact absurd rfl h
  | _ => rfl

theorem isShown_shownText (v : Json) : IsShown v (shownText v) := by
  by_cases hnull : v = .null
  · rw [hnull]
    exact .null
  rw [shownText_of_ne_null hnull, clip, List.length_map]
  split
  · next hshort => exact .short hnull hshort
  · next hlong =>
    rw [← List.map_take]
    exact .long hnull (Nat.lt_of_not_le hlong)

theorem clipValue_of_isNeat {v : Json} (h : IsNeat v) : clipValue v = .ok (shownText v) := by
  have hshown := h.shown
  cases v <;> simp_all [clipValue, shownText]

theorem length_shownText_le (v : Json) : (shownText v).length ≤ cellWidth := by
  cases v with
  | null => exact Nat.zero_le _
  | _ => exact length_clip_le _

theorem getLast?_shownText {v : Json} (h : IsNeat v) :
    ∀ c ∈ (shownText v).getLast?, isBlank c = false := by
  have hlast : ∀ c ∈ v.display.toList.getLast?, isBlank c = false := by
    obtain ⟨-, -, -, -, -, -, hlast⟩ := exists_trimChars v.display.toList
    rwa [← h.trimmed, trim, String.toList_ofList]
  cases v with
  | null => exact fun c hc => by cases hc
  | _ => exact getLast?_clip hlast

namespace Grid

/-- A text with nothing but spaces behind the last of its characters that is no white space. -/
def IsFilled (cs : List Char) : Prop :=
  ∃ text n, cs = text ++ List.replicate n ' ' ∧ ∀ c ∈ text.getLast?, isBlank c = false

theorem isFilled_padTo {cs : List Char} (h : ∀ c ∈ cs.getLast?, isBlank c = false) (width : Nat) :
    IsFilled (padTo width cs) :=
  ⟨cs, width - cs.length, rfl, h⟩

theorem IsFilled.append {a b : List Char} (ha : IsFilled a) (hb : IsFilled b) :
    IsFilled (a ++ b) := by
  obtain ⟨a, m, rfl, ha⟩ := ha
  obtain ⟨b, n, rfl, hb⟩ := hb
  cases b with
  | nil => exact ⟨a, m + n, by simp [List.replicate_append_replicate], ha⟩
  | cons c b =>
    refine ⟨a ++ List.replicate m ' ' ++ c :: b, n, by simp, ?_⟩
    rwa [List.getLast?_append_of_ne_nil _ (List.cons_ne_nil c b)]

theorem isFilled_intercalate {sep : List Char} (hsep : IsFilled sep) {parts : List (List Char)}
    (h : ∀ part ∈ parts, IsFilled part) : IsFilled (sep.intercalate parts) := by
  induction parts with
  | nil => exact ⟨[], 0, rfl, by simp⟩
  | cons part parts ih =>
    obtain ⟨hpart, hparts⟩ := List.forall_mem_cons.1 h
    cases parts with
    | nil => rwa [List.intercalate_singleton]
    | cons next parts =>
      rw [List.intercalate_cons_cons]
      exact (hpart.append hsep).append (ih hparts)

/-- The spaces that a line loses at its end can be put back. -/
theorem padTo_trimRight {cs : List Char} (h : IsFilled cs) :
    padTo cs.length (trimRight cs) = cs := by
  obtain ⟨text, n, rfl, hlast⟩ := h
  have hspaces : allBlank (List.replicate n ' ') = true := by simp [allBlank, isBlank]
  rw [trimRight_append _ hspaces, trimRight_eq_self hlast]
  simp [padTo]

theorem length_intercalate (sep : List Char) (parts : List (List Char)) :
    (sep.intercalate parts).length =
      (parts.map List.length).sum + sep.length * (parts.length - 1) := by
  induction parts with
  | nil => simp
  | cons part parts ih =>
    cases parts with
    | nil => simp
    | cons next parts =>
      rw [List.intercalate_cons_cons, List.length_append, List.length_append, ih]
      simp only [List.map_cons, List.sum_cons, List.length_cons, Nat.add_sub_cancel, Nat.mul_add,
        Nat.mul_one]
      omega

/-- Behind each part but the last one the separator follows. -/
theorem isPrefix_drop_intercalate (sep : List Char) (parts : List (List Char)) {i : Nat}
    (h : i + 1 < parts.length) :
    sep <+: (sep.intercalate parts).drop
      (((parts.map List.length).take (i + 1)).sum + sep.length * i) := by
  induction i generalizing parts with
  | zero =>
    match parts, h with
    | part :: next :: parts, _ => simp [List.intercalate_cons_cons]
  | succ i ih =>
    match parts, h with
    | part :: next :: parts, h =>
      have hplace : ((((part :: next :: parts).map List.length).take (i + 1 + 1)).sum +
          sep.length * (i + 1)) = (part ++ sep).length +
            ((((next :: parts).map List.length).take (i + 1)).sum + sep.length * i) := by
        simp only [List.map_cons, List.take_succ_cons, List.sum_cons, List.length_append,
          Nat.mul_add, Nat.mul_one]
        omega
      rw [hplace, List.intercalate_cons_cons, ← List.drop_drop, List.drop_left]
      exact ih (next :: parts) (Nat.lt_of_succ_lt_succ h)

theorem getElem?_widen (ws : List Nat) (cells : List (List Char)) (i : Nat) :
    (widen ws cells)[i]? = ws[i]?.map fun w => max w (cells[i]?.elim 0 List.length) := by
  induction ws generalizing cells i with
  | nil => simp [widen]
  | cons w ws ih =>
    cases cells with
    | nil => simp [widen]
    | cons cell cells =>
      rw [widen]
      cases i with
      | zero => simp
      | succ i => simpa using ih cells i

theorem length_foldl_widen (rows : List (List (List Char))) (ws : List Nat) :
    (rows.foldl widen ws).length = ws.length := by
  have hwiden (ws : List Nat) (cells : List (List Char)) :
      (widen ws cells).length = ws.length := by
    induction ws generalizing cells with
    | nil => simp [widen]
    | cons w ws ih => cases cells <;> simp [widen, ih]
  induction rows generalizing ws with
  | nil => rfl
  | cons cells rows ih => rw [List.foldl_cons, ih, hwiden]

theorem length_widths (g : Grid) : g.widths.length = g.headers.length := by
  rw [widths, length_foldl_widen, List.length_map]

def lengths (rows : List (List (List Char))) (i : Nat) : Set Nat :=
  {n | ∃ cells ∈ rows, ∃ cell, cells[i]? = some cell ∧ cell.length = n}

theorem lengths_cons (cells : List (List Char)) (rows : List (List (List Char))) (i : Nat) :
    lengths (cells :: rows) i = {n | ∃ cell, cells[i]? = some cell ∧ cell.length = n} ∪
      lengths rows i := by
  ext n
  simp [lengths]

/-- The width is the greatest of the width so far and the lengths that were gone through. -/
theorem isGreatest_foldl_widen (rows : List (List (List Char))) {ws : List Nat} {i w : Nat}
    (h : (rows.foldl widen ws)[i]? = some w) :
    ∃ start, ws[i]? = some start ∧ IsGreatest (insert start (lengths rows i)) w := by
  induction rows generalizing ws with
  | nil => exact ⟨w, h, by simp [lengths, IsGreatest, upperBounds]⟩
  | cons cells rows ih =>
    obtain ⟨wider, hwider, hmem, hle⟩ := ih h
    rw [getElem?_widen] at hwider
    obtain ⟨start, hstart, rfl⟩ := Option.map_eq_some_iff.1 hwider
    refine ⟨start, hstart, ?_⟩
    rw [lengths_cons]
    cases hcell : cells[i]? with
    | none =>
      simp only [hcell, Option.elim_none, Nat.max_eq_left (Nat.zero_le _)] at hmem hle
      simpa [hcell] using ⟨hmem, hle⟩
    | some cell =>
      simp only [hcell, Option.elim_some] at hmem hle
      have hlength : {n | ∃ shown, some cell = some shown ∧ shown.length = n} = {cell.length} := by
        ext n
        simp [eq_comm]
      rw [hlength, Set.singleton_union]
      constructor
      · rcases hmem with rfl | hmem
        · rcases Nat.le_total start cell.length with h | h
          · exact Or.inr (Or.inl (Nat.max_eq_right h))
          · exact Or.inl (Nat.max_eq_left h)
        · exact Or.inr (Or.inr hmem)
      · have hmax : max start cell.length ≤ w := hle (Set.mem_insert _ _)
        rintro n (rfl | rfl | hn)
        · exact le_trans (le_max_left _ _) hmax
        · exact le_trans (le_max_right _ _) hmax
        · exact hle (Set.mem_insert_of_mem _ hn)

theorem isGreatest_widths (g : Grid) {i w : Nat} (h : g.widths[i]? = some w) :
    IsGreatest (lengths (g.headers :: g.rows) i) w := by
  obtain ⟨start, hstart, hgreatest⟩ := isGreatest_foldl_widen g.rows h
  rw [List.getElem?_map] at hstart
  obtain ⟨header, hheader, rfl⟩ := Option.map_eq_some_iff.1 hstart
  rw [lengths_cons]
  convert hgreatest using 1
  ext n
  simp [hheader, eq_comm]

structure Fits (ws : List Nat) (cells : List (List Char)) : Prop where
  length_le : ws.length ≤ cells.length
  cell_le : ∀ (i w : Nat) (cell : List Char), ws[i]? = some w → cells[i]? = some cell →
    cell.length ≤ w

theorem Fits.length_zipWith {ws : List Nat} {cells : List (List Char)} (h : Fits ws cells) :
    (List.zipWith padTo ws cells).length = ws.length := by
  rw [List.length_zipWith, Nat.min_eq_left h.length_le]

theorem Fits.map_length {ws : List Nat} {cells : List (List Char)} (h : Fits ws cells) :
    (List.zipWith padTo ws cells).map List.length = ws := by
  refine List.ext_getElem (by rw [List.length_map, h.length_zipWith]) fun i _ hi => ?_
  have hcell : i < cells.length := Nat.lt_of_lt_of_le hi h.length_le
  have hle := h.cell_le i _ _ (List.getElem?_eq_getElem hi) (List.getElem?_eq_getElem hcell)
  rw [List.getElem_map, List.getElem_zipWith, padTo, List.length_append, List.length_replicate]
  omega

def separator (ws : List Nat) : List Char :=
  ['-', '+', '-'].intercalate (ws.map fun w => List.replicate w '-')

def jointAt (ws : List Nat) (i : Nat) : Nat :=
  (ws.take (i + 1)).sum + 3 * i

/-- A line in which cells stand in columns of the given widths. It has no white space at its end.
With spaces there it is as long as the separator, the cells in it are filled up to the widths, and
its bars stand where the separator has its crosses. -/
structure IsAligned (ws : List Nat) (cells : List (List Char)) (line : List Char) : Prop where
  trimmed : ∀ c ∈ line.getLast?, isBlank c = false
  rightpad_eq : line.rightpad (separator ws).length ' ' =
    [' ', '|', ' '].intercalate (List.zipWith (fun w cell => cell.rightpad w ' ') ws cells)
  length_eq : (line.rightpad (separator ws).length ' ').length = (separator ws).length
  joint : ∀ i, i + 1 < ws.length → ['-', '+', '-'] <+: (separator ws).drop (jointAt ws i) ∧
    [' ', '|', ' '] <+: (line.rightpad (separator ws).length ' ').drop (jointAt ws i)

theorem line_eq (ws : List Nat) (cells : List (List Char)) :
    line ws cells = trimRight ([' ', '|', ' '].intercalate (List.zipWith padTo ws cells)) := by
  rw [line, List.map_zip_eq_zipWith, List.zipWith_comm]
  rfl

theorem isAligned_line {ws : List Nat} {cells : List (List Char)} (hfits : Fits ws cells)
    (hlast : ∀ cell ∈ cells, ∀ c ∈ cell.getLast?, isBlank c = false) :
    IsAligned ws cells (line ws cells) := by
  have hdashes : (ws.map fun w => List.replicate w '-').map List.length = ws := by
    simp [Function.comp_def]
  have hlength : ([' ', '|', ' '].intercalate (List.zipWith padTo ws cells)).length =
      (separator ws).length := by
    rw [separator, length_intercalate, length_intercalate, hfits.map_length, hdashes,
      hfits.length_zipWith, List.length_map]
    rfl
  have hfilled : IsFilled ([' ', '|', ' '].intercalate (List.zipWith padTo ws cells)) := by
    refine isFilled_intercalate ⟨[' ', '|'], 1, rfl, by simp [isBlank]⟩ fun part hpart => ?_
    rw [← List.map_uncurry_zip_eq_zipWith] at hpart
    obtain ⟨⟨w, cell⟩, hmem, rfl⟩ := List.mem_map.1 hpart
    exact isFilled_padTo (hlast cell (List.of_mem_zip hmem).2) w
  have hpadded : (line ws cells).rightpad (separator ws).length ' ' =
      [' ', '|', ' '].intercalate (List.zipWith padTo ws cells) := by
    rw [← hlength, line_eq]
    exact padTo_trimRight hfilled
  refine ⟨?_, hpadded, by rw [hpadded, hlength], fun i hi => ⟨?_, ?_⟩⟩
  · rw [line_eq]
    exact getLast?_trimRight _
  · have hparts : i + 1 < (ws.map fun w => List.replicate w '-').length := by
      rwa [List.length_map]
    have hjoint := isPrefix_drop_intercalate ['-', '+', '-'] _ hparts
    rwa [hdashes] at hjoint
  · have hparts : i + 1 < (List.zipWith padTo ws cells).length := by
      rwa [hfits.length_zipWith]
    have hjoint := isPrefix_drop_intercalate [' ', '|', ' '] _ hparts
    rwa [hfits.map_length, ← hpadded] at hjoint

def shownGrid (columns : List Json) (rows : List (List Json)) (hidden : Nat) : Grid :=
  ⟨columns.map shownText, rows.map (List.map shownText), hidden⟩

theorem lines_shownGrid (columns : List Json) (rows : List (List Json)) (hidden : Nat) :
    (shownGrid columns rows hidden).lines =
      String.ofList (line (shownGrid columns rows hidden).widths (columns.map shownText)) ::
        String.ofList (rule (shownGrid columns rows hidden).widths) ::
        ((rows.map (List.map shownText)).map (line (shownGrid columns rows hidden).widths)).map
          String.ofList ++
        (if hidden = 0 then [] else ["... " ++ toString hidden ++ " more row(s)"]) :=
  rfl

theorem ofValues_eq {columns : List Json} {rows : List (List Json)} (maxRows : Nat)
    (hcolumns : ∀ v ∈ columns, IsNeat v) (hrows : ∀ row ∈ rows, ∀ v ∈ row, IsNeat v) :
    ofValues (.list columns) (rows.map .list) maxRows =
      .ok (shownGrid columns (rows.take maxRows) (rows.length - maxRows)) := by
  have hclip {cells : List Json} (h : ∀ v ∈ cells, IsNeat v) :
      cells.mapM clipValue = .ok (cells.map shownText) :=
    mapM_eq_map fun v hv => clipValue_of_isNeat (h v hv)
  have hslice : slice 0 (some (maxRows : Int)) (rows.map Json.list) =
      (rows.take maxRows).map .list := by
    simpa using slice_natCast 0 maxRows (rows.map Json.list)
  have hshown : ((rows.take maxRows).map Json.list).mapM
      (fun row => do (← cellsOf row).mapM clipValue) =
        .ok ((rows.take maxRows).map (List.map shownText)) := by
    rw [List.mapM_map]
    exact mapM_eq_map fun row hrow => hclip (hrows row (List.mem_of_mem_take hrow))
  have hhidden : (rows.map Json.list).length - ((rows.take maxRows).map Json.list).length =
      rows.length - maxRows := by
    rw [List.length_map, List.length_map, List.length_take]
    omega
  rw [ofValues, hslice, hshown, hhidden]
  simp only [cellsOf, bind, Except.bind, hclip hcolumns]
  rfl

/-- Each column is as wide as the longest text in it, which has at most 40 characters. -/
structure AreWidths (rows : List (List (List Char))) (ws : List Nat) : Prop where
  isGreatest : ∀ (i : Nat) (hi : i < ws.length), IsGreatest (lengths rows i) ws[i]
  le : ∀ w ∈ ws, w ≤ 40

section Shown

variable {columns : List Json} {rows : List (List Json)} {hidden : Nat}

theorem length_widths_shownGrid :
    (shownGrid columns rows hidden).widths.length = columns.length := by
  rw [length_widths, shownGrid, List.length_map]

theorem isGreatest_shownGrid {i w : Nat} (h : (shownGrid columns rows hidden).widths[i]? = some w) :
    IsGreatest (lengths ((columns :: rows).map (List.map shownText)) i) w :=
  isGreatest_widths _ h

theorem areWidths_shownGrid : AreWidths ((columns :: rows).map (List.map shownText))
    (shownGrid columns rows hidden).widths := by
  refine ⟨fun i hi => isGreatest_shownGrid (List.getElem?_eq_getElem hi), fun w hw => ?_⟩
  obtain ⟨i, hi⟩ := List.getElem?_of_mem hw
  obtain ⟨cells, hcells, cell, hcell, rfl⟩ := (isGreatest_shownGrid hi).1
  obtain ⟨row, -, rfl⟩ := List.mem_map.1 hcells
  obtain ⟨v, -, rfl⟩ := List.mem_map.1 (List.mem_of_getElem? hcell)
  exact length_shownText_le v

theorem fits_shownGrid {row : List Json} (hmem : row ∈ columns :: rows)
    (hwide : columns.length ≤ row.length) :
    Fits (shownGrid columns rows hidden).widths (row.map shownText) := by
  refine ⟨by rwa [length_widths_shownGrid, List.length_map], fun i w cell hw hcell => ?_⟩
  exact (isGreatest_shownGrid hw).2 ⟨row.map shownText, List.mem_map_of_mem hmem, cell, hcell, rfl⟩

theorem isAligned_shownGrid {row : List Json} (hmem : row ∈ columns :: rows)
    (hwide : columns.length ≤ row.length) (hneat : ∀ v ∈ row, IsNeat v) :
    IsAligned (shownGrid columns rows hidden).widths (row.map shownText)
      (line (shownGrid columns rows hidden).widths (row.map shownText)) := by
  refine isAligned_line (fits_shownGrid hmem hwide) fun cell hcell => ?_
  obtain ⟨v, hv, rfl⟩ := List.mem_map.1 hcell
  exact getLast?_shownText (hneat v hv)

end Shown

theorem forall₂_shownText (values : List Json) :
    List.Forall₂ IsShown values (values.map shownText) := by
  rw [List.forall₂_map_right_iff, List.forall₂_same]
  exact fun v _ => isShown_shownText v

/-- The lines of a table whose rows are long enough and whose texts have no white space at their
ends: the headers, the separator, the first rows in order and the number of the rows that are left
out, if there are any. In the headers and the rows the texts that show the values are aligned with
the separator. -/
theorem ofValues_lines {columns : List Json} {rows : List (List Json)} (maxRows : Nat)
    (hwide : ∀ row ∈ rows, columns.length ≤ row.length)
    (hcolumns : ∀ v ∈ columns, IsNeat v) (hrows : ∀ row ∈ rows, ∀ v ∈ row, IsNeat v) :
    ∃ (g : Grid) (headers : List (List Char)) (cells : List (List (List Char))) (ws : List Nat)
      (header : List Char) (shown : List (List Char)),
      ofValues (.list columns) (rows.map .list) maxRows = .ok g ∧
      g.lines = String.ofList header :: String.ofList (separator ws) ::
        shown.map String.ofList ++ (if rows.length ≤ maxRows then []
          else ["... " ++ toString (rows.length - maxRows) ++ " more row(s)"]) ∧
      List.Forall₂ IsShown columns headers ∧
      List.Forall₂ (List.Forall₂ IsShown) (rows.take maxRows) cells ∧
      ws.length = columns.length ∧ AreWidths (headers :: cells) ws ∧
      IsAligned ws headers header ∧ shown.length = min maxRows rows.length ∧
      List.Forall₂ (IsAligned ws) cells shown := by
  have hlines := lines_shownGrid columns (rows.take maxRows) (rows.length - maxRows)
  simp only [Nat.sub_eq_zero_iff_le] at hlines
  refine ⟨_, columns.map shownText, (rows.take maxRows).map (List.map shownText), _, _, _,
    ofValues_eq maxRows hcolumns hrows, hlines, forall₂_shownText columns, ?_,
    length_widths_shownGrid, areWidths_shownGrid, ?_, ?_, ?_⟩
  · rw [List.forall₂_map_right_iff, List.forall₂_same]
    exact fun row _ => forall₂_shownText row
  · exact isAligned_shownGrid List.mem_cons_self le_rfl hcolumns
  · rw [List.length_map, List.length_map, List.length_take]
  · rw [List.forall₂_map_right_iff, List.forall₂_same]
    intro cells hcells
    obtain ⟨row, hrow, rfl⟩ := List.mem_map.1 hcells
    have hmem := List.mem_of_mem_take hrow
    exact isAligned_shownGrid (List.mem_cons_of_mem _ hrow) (hwide row hmem) (hrows row hmem)

def staffColumns : List Json :=
  [.text "Name", .text "Room", .text "Note"]

/-- A missing last cell, a clipped one with a further cell behind the columns, and a row too
many. -/
def staffRows : List (List Json) :=
  [[.text "Ann", .int 12, .null],
    [.text "Bartholomew Cornelius Featherstonehaugh II", .text "", .text "on\nleave", .bool true],
    [.text "Cid", .text "3", .text "x"]]

theorem ofValues_lines_staff :
    (∀ row ∈ staffRows, staffColumns.length ≤ row.length) ∧ (∀ v ∈ staffColumns, IsNeat v) ∧
      (∀ row ∈ staffRows, ∀ v ∈ row, IsNeat v) ∧
      ∃ (g : Grid) (headers : List (List Char)) (cells : List (List (List Char))) (ws : List Nat)
        (header : List Char) (shown : List (List Char)),
        ofValues (.list staffColumns) (staffRows.map .list) 2 = .ok g ∧
        g.lines = ["Name                                     | Room | Note",
          "-----------------------------------------+------+---------",
          "Ann                                      | 12   |",
          "Bartholomew Cornelius Featherstonehau... |      | on leave",
          "... 1 more row(s)"] ∧
        List.Forall₂ (List.Forall₂ IsShown) (staffRows.take 2) cells ∧
        AreWidths (headers :: cells) ws ∧ IsAligned ws headers header ∧
        List.Forall₂ (IsAligned ws) cells shown := by
  have hwide : ∀ row ∈ staffRows, staffColumns.length ≤ row.length := by decide
  have hcolumns : ∀ v ∈ staffColumns, IsNeat v := by decide +kernel
  have hrows : ∀ row ∈ staffRows, ∀ v ∈ row, IsNeat v := by decide +kernel
  obtain ⟨g, headers, cells, ws, header, shown, hg, -, -, hcells, -, hwidths, haligned, -,
    hshown⟩ := ofValues_lines 2 hwide hcolumns hrows
  have hlines : (ofValues (.list staffColumns) (staffRows.map .list) 2).map Grid.lines = .ok
      ["Name                                     | Room | Note",
        "-----------------------------------------+------+---------",
        "Ann                                      | 12   |",
        "Bartholomew Cornelius Featherstonehau... |      | on leave",
        "... 1 more row(s)"] := by
    decide +kernel
  have hg' : ofValues (.list staffColumns) (staffRows.map .list) 2 = .ok g := hg
  rw [hg'] at hlines
  exact ⟨hwide, hcolumns, hrows, g, headers, cells, ws, header, shown, hg, Except.ok.inj hlines,
    hcells, hwidths, haligned, hshown⟩

end Grid

end TableTalk.Chat

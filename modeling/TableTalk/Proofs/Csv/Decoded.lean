import Mathlib.Data.List.Basic
import TableTalk.Proofs.Csv.Pieces

/-!
# Fields as decoded pieces

A record is cut at the commas that come after an even number of double quotes, and what a field
holds can be read off the parts of its piece between quotes: they are put together, with a quote for
every part that is empty and stands between two quotes of which the first one closes and the second
one opens again. This holds of every record, also of one with stray quotes or a quote left open.
-/

namespace TableTalk.Csv

open Text

/-- What the part at place `i` of a piece stands for if the last part is at place `last`. The parts
at even places are outside quotes. -/
def partText (last i : ℕ) (part : List Char) : List Char :=
  if part = [] ∧ i % 2 = 0 ∧ 2 ≤ i ∧ i < last then ['"'] else part

def decoded (piece : List Char) : List Char :=
  let parts := splitOn '"' piece
  (parts.mapIdx (partText (parts.length - 1))).flatten

def textFrom (last i : ℕ) (parts : List (List Char)) : List Char :=
  (parts.mapIdx fun j part => partText last (i + j) part).flatten

def turnText : Bool → List (List Char) → List Char
  | _, [] => []
  | true, part :: [] :: next :: parts => part ++ '"' :: turnText true (next :: parts)
  | inQuotes, part :: parts => part ++ turnText (!inQuotes) parts

theorem textFrom_cons (last i : ℕ) (part : List Char) (parts : List (List Char)) :
    textFrom last i (part :: parts) = partText last i part ++ textFrom last (i + 1) parts := by
  have hplace : (fun j => partText last (i + (j + 1))) = fun j => partText last (i + 1 + j) :=
    funext fun j => by rw [Nat.add_right_comm, Nat.add_assoc]
  rw [textFrom, List.mapIdx_cons, List.flatten_cons, Nat.add_zero, textFrom, hplace]

theorem partText_inside {i : ℕ} (h : i % 2 = 1) (last : ℕ) (part : List Char) :
    partText last i part = part :=
  if_neg fun hall => by omega

theorem partText_last {last i : ℕ} (h : last ≤ i) (part : List Char) :
    partText last i part = part :=
  if_neg fun hall => by omega

theorem partText_of_ne_nil {part : List Char} (h : part ≠ []) (last i : ℕ) :
    partText last i part = part :=
  if_neg fun hall => h hall.1

/-- Going along the parts decides as their places do, if the first part is one that is taken as it
is. -/
theorem turnText_eq_textFrom {inQuotes : Bool} {parts : List (List Char)} {last i : ℕ}
    (hi : inQuotes = decide (i % 2 = 1)) (hlast : last + 1 = i + parts.length)
    (hhead : ∀ part ∈ parts.head?, partText last i part = part) :
    turnText inQuotes parts = textFrom last i parts := by
  fun_induction turnText inQuotes parts generalizing i with
  | case1 inQuotes => rfl
  | case2 part next parts ih =>
    have hodd : i % 2 = 1 := of_decide_eq_true hi.symm
    simp only [List.length_cons] at hlast
    have hquote : partText last (i + 1) [] = ['"'] :=
      if_pos ⟨rfl, by omega, by omega, by omega⟩
    have hrest : turnText true (next :: parts) = textFrom last (i + 2) (next :: parts) := by
      have hplace : true = decide ((i + 2) % 2 = 1) := by simpa using hodd
      refine ih hplace ?_ fun part _ => partText_inside (by omega) last part
      simp only [List.length_cons]
      omega
    rw [textFrom_cons, textFrom_cons, partText_inside hodd, hquote, hrest]
    rfl
  | case3 inQuotes part parts hpair ih =>
    simp only [List.length_cons] at hlast
    have hplace : (!inQuotes) = decide ((i + 1) % 2 = 1) := by
      rw [hi, ← decide_not, decide_eq_decide]
      omega
    have hfirst : ∀ first ∈ parts.head?, partText last (i + 1) first = first := by
      intro first hfirst
      obtain ⟨others, rfl⟩ := List.head?_eq_some_iff.1 hfirst
      simp only [List.length_cons] at hlast
      -- An empty part behind one inside quotes is the last, or both would have been taken together.
      by_cases hodd : i % 2 = 1
      · rw [decide_eq_true hodd] at hi
        cases others with
        | nil => exact partText_last (by simp at hlast; omega) first
        | cons next others =>
          exact partText_of_ne_nil (fun hempty => hpair next others hi (by rw [hempty])) last _
      · exact partText_inside (by omega) last first
    rw [textFrom_cons, hhead part (by simp), ih hplace (by omega) hfirst]

theorem turnText_cons {inQuotes : Bool} {parts : List (List Char)}
    (h : inQuotes = true → ∀ next more, parts ≠ [] :: next :: more) (part : List Char) :
    turnText inQuotes (part :: parts) = part ++ turnText (!inQuotes) parts := by
  rw [turnText]
  intro next more hopen
  exact h hopen next more

theorem turnText_push (c : Char) (inQuotes : Bool) (part : List Char) (parts : List (List Char)) :
    turnText inQuotes ((c :: part) :: parts) = c :: turnText inQuotes (part :: parts) := by
  by_cases hpair : inQuotes = true ∧ ∃ next more, parts = [] :: next :: more
  · obtain ⟨rfl, next, more, rfl⟩ := hpair
    rfl
  · have hplain : inQuotes = true → ∀ next more, parts ≠ [] :: next :: more :=
      fun hopen next more hparts => hpair ⟨hopen, next, more, hparts⟩
    rw [turnText_cons hplain, turnText_cons hplain, List.cons_append]

theorem decoded_eq_turnText (piece : List Char) :
    decoded piece = turnText false (splitOn '"' piece) := by
  have hpos := List.length_pos_of_ne_nil (splitOn_ne_nil '"' piece)
  have hfirst (last : ℕ) (part : List Char) : partText last 0 part = part :=
    if_neg fun hall => by omega
  have hturn : turnText false (splitOn '"' piece) =
      textFrom ((splitOn '"' piece).length - 1) 0 (splitOn '"' piece) :=
    turnText_eq_textFrom rfl (by omega) fun part _ => hfirst _ part
  rw [hturn, textFrom, decoded]
  simp only [Nat.zero_add]

def restText (inQuotes : Bool) (rest : List Char) : List Char :=
  turnText inQuotes (splitOn '"' rest)

theorem splitOn_quote (rest : List Char) : splitOn '"' ('"' :: rest) = [] :: splitOn '"' rest :=
  if_pos rfl

theorem exists_splitOn_cons {sep c : Char} (h : c ≠ sep) (rest : List Char) :
    ∃ piece pieces, splitOn sep rest = piece :: pieces ∧
      splitOn sep (c :: rest) = (c :: piece) :: pieces := by
  obtain ⟨piece, pieces, hrest⟩ := List.exists_cons_of_ne_nil (splitOn_ne_nil sep rest)
  exact ⟨piece, pieces, hrest, by rw [splitOn, if_neg h, hrest]⟩

theorem restText_nil (inQuotes : Bool) : restText inQuotes [] = [] := by
  cases inQuotes <;> rfl

theorem restText_plain {c : Char} (h : c ≠ '"') (inQuotes : Bool) (rest : List Char) :
    restText inQuotes (c :: rest) = c :: restText inQuotes rest := by
  obtain ⟨piece, pieces, hrest, hcons⟩ := exists_splitOn_cons h rest
  rw [restText, hcons, turnText_push, restText, hrest]

theorem restText_pair (rest : List Char) :
    restText true ('"' :: '"' :: rest) = '"' :: restText true rest := by
  obtain ⟨next, parts, hparts⟩ := List.exists_cons_of_ne_nil (splitOn_ne_nil '"' rest)
  rw [restText, splitOn_quote, splitOn_quote, restText, hparts]
  rfl

theorem restText_quote {inQuotes : Bool} {rest : List Char}
    (h : inQuotes = true → rest.head? ≠ some '"') :
    restText inQuotes ('"' :: rest) = restText (!inQuotes) rest := by
  rw [restText, splitOn_quote, turnText_cons]
  · rfl
  intro hopen next more hparts
  cases rest with
  | nil => cases hparts
  | cons c rest =>
    have hc : c ≠ '"' := fun hc => h hopen (by rw [hc, List.head?_cons])
    obtain ⟨piece, pieces, -, hcons⟩ := exists_splitOn_cons hc rest
    rw [hcons] at hparts
    cases hparts

/-- A scan decodes the pieces between the commas that come after an even number of quotes; the first
of them may start inside quotes. -/
theorem fields_scan {before : List Char} {inQuotes : Bool} (h : oddQuotes before = inQuotes)
    (cs : List Char) :
    ∃ piece pieces, cutOutside ',' before cs = piece :: pieces ∧
      (scan inQuotes cs).fields = restText inQuotes piece :: pieces.map (restText false) := by
  fun_induction scan inQuotes cs generalizing before with
  | case1 inQuotes => exact ⟨[], [], rfl, by rw [restText_nil]; rfl⟩
  | case2 rest ih =>
    have hafter : oddQuotes (before ++ ['"'] ++ ['"']) = true := by
      rw [oddQuotes_concat_quote, oddQuotes_concat_quote, h]
      rfl
    obtain ⟨piece, pieces, hcut, hfields⟩ := ih hafter
    refine ⟨'"' :: '"' :: piece, pieces, ?_, ?_⟩
    · rw [cutOutside_keep (by simp), cutOutside_keep (by simp), hcut]
      rfl
    · rw [Scan.fields_push, hfields, restText_pair]
      rfl
  | case3 inQuotes rest hpair ih =>
    have hafter : oddQuotes (before ++ ['"']) = !inQuotes := by rw [oddQuotes_concat_quote, h]
    obtain ⟨piece, pieces, hcut, hfields⟩ := ih hafter
    refine ⟨'"' :: piece, pieces, ?_, ?_⟩
    · rw [cutOutside_keep (by simp), hcut]
      rfl
    · rw [hfields, restText_quote]
      -- The piece is the front of the rest, where a second quote would make a pair.
      rintro hopen hhead
      obtain ⟨piece, rfl⟩ := List.head?_eq_some_iff.1 hhead
      obtain ⟨rest, rfl⟩ := prefix_of_cutOutside hcut
      exact hpair _ hopen rfl
  | case4 rest ih =>
    have hafter : oddQuotes (before ++ [',']) = false := by
      rw [oddQuotes_concat_of_ne (by decide), h]
    obtain ⟨piece, pieces, hcut, hfields⟩ := ih hafter
    refine ⟨[], piece :: pieces, ?_, ?_⟩
    · rw [cutOutside_sep (oddQuotes_eq_false_iff.1 h), hcut]
    · rw [Scan.fields_cut, hfields, restText_nil]
      rfl
  | case5 inQuotes c rest hpair hquote hcomma ih =>
    have hc : c ≠ '"' := fun hc => hquote hc
    have hafter : oddQuotes (before ++ [c]) = inQuotes := by rw [oddQuotes_concat_of_ne hc, h]
    obtain ⟨piece, pieces, hcut, hfields⟩ := ih hafter
    refine ⟨c :: piece, pieces, ?_, ?_⟩
    · rw [cutOutside_keep, hcut]
      · rfl
      · rintro rfl
        cases inQuotes with
        | false => exact absurd rfl (hcomma rfl)
        | true => exact oddQuotes_eq_true_iff.1 h
    · rw [Scan.fields_push, hfields, restText_plain hc]
      rfl

theorem fields_scan_eq_decoded (cs : List Char) :
    (scan false cs).fields = (cutOutside ',' [] cs).map decoded := by
  have hstart : oddQuotes [] = false := rfl
  obtain ⟨piece, pieces, hcut, hfields⟩ := fields_scan hstart cs
  have hdecoded : restText false = decoded := funext fun p => (decoded_eq_turnText p).symm
  rw [hfields, hcut, hdecoded, List.map_cons]

theorem fieldChars_eq_decoded (record : List Char) :
    fieldChars record = (cutOutside ',' [] record).map (trimChars ∘ decoded) := by
  rw [fieldChars, fields_scan_eq_decoded, List.map_map]

theorem fieldChars_append_comma {a : List Char} (h : oddQuotes a = false) (b : List Char) :
    fieldChars (a ++ ',' :: b) = fieldChars a ++ fieldChars b := by
  have hback : oddQuotes ([] ++ a ++ [',']) = oddQuotes [] := by
    rw [List.nil_append, oddQuotes_concat_of_ne (by decide), h]
    rfl
  rw [fieldChars_eq_decoded, cutOutside_append_sep (by simpa using h), cutOutside_congr hback,
    List.map_append, ← fieldChars_eq_decoded, ← fieldChars_eq_decoded]

/-- The fields of a record are its decoded pieces between the commas that come after an even number
of quotes, trimmed. So a record that is put together from two at such a comma has the fields of
both. -/
theorem splitFields_eq_decoded :
    (∀ record : String, splitFields record =
      (cutOutside ',' [] record.toList).map fun piece => trim (String.ofList (decoded piece))) ∧
    ∀ a b : String, a.toList.count '"' % 2 = 0 →
      splitFields (a ++ "," ++ b) = splitFields a ++ splitFields b := by
  constructor
  · intro record
    rw [splitFields, fieldChars_eq_decoded, List.map_map]
    refine List.map_congr_left fun piece _ => ?_
    rw [Function.comp_apply, Function.comp_apply, trim, String.toList_ofList]
  · intro a b h
    have hjoined : (a ++ "," ++ b).toList = a.toList ++ ',' :: b.toList := by
      rw [String.toList_append, String.toList_append, List.append_assoc]
      rfl
    rw [splitFields, splitFields, splitFields, hjoined,
      fieldChars_append_comma (oddQuotes_eq_false_iff.2 h), List.map_append]

/-- Quotes in the middle of a field with a comma between them, a quote after a doubled one, and a
quote left open. -/
theorem splitFields_eq_decoded_stray :
    let a := "a\"b,\"\"c\"d ,\"e\"\"\""
    let b := "f\"\", \"g"
    a.toList.count '"' % 2 = 0 ∧
      splitFields (a ++ "," ++ b) = ["ab,\"cd", "e\"", "f", "g"] := by
  intro a b
  have h : a.toList.count '"' % 2 = 0 := by decide
  exact ⟨h, (splitFields_eq_decoded.2 a b h).trans (by decide)⟩

end TableTalk.Csv

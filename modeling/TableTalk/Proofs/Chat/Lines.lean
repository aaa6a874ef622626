import TableTalk.Chat.Session
import TableTalk.Proofs.Text.Search

/-!
# Lines of a chat

A line is nothing, one of the words to leave, the word for the columns, or asks for something that
gets a ticket. In the last case it is a question unless it starts with the word for statements; what
stands behind its first word is the statement then.
-/

namespace TableTalk.Chat

open Text

def isBlankLine (line : String) : Bool :=
  (trimChars line.toList).isEmpty

def isLeaving (line : String) : Bool :=
  ["/exit", "exit", "quit", ":q"].contains (lower (trim line))

def asksColumns (line : String) : Bool :=
  trim line = "/columns"

def takesTicket (line : String) : Bool :=
  !isBlankLine line && !isLeaving line && !asksColumns line

theorem takesTicket_iff {line : String} : takesTicket line = true ↔
    isBlankLine line = false ∧ isLeaving line = false ∧ asksColumns line = false := by
  simp [takesTicket, and_assoc]

/-- The line starts with the word for statements, or with a word that goes on from it. -/
def isStatement (line : String) : Bool :=
  "/sql".toList.isPrefixOf (trim line).toList

def IsWord (line : String) : Prop :=
  ∀ c ∈ (trim line).toList, isBlank c = false

structure Gives (line text : String) : Prop where
  parts : ∃ word blanks : List Char, (trim line).toList = word ++ (blanks ++ text.toList) ∧
    (∀ c ∈ word, isBlank c = false) ∧ blanks ≠ [] ∧ allBlank blanks = true
  starts : ∃ c ∈ text.toList.head?, isBlank c = false

theorem Gives.ne_empty {line text : String} (h : Gives line text) : text ≠ "" := by
  rintro rfl
  obtain ⟨c, hc, -⟩ := h.starts
  cases hc

namespace Command

theorem notBlank_of_afterWord_eq_nil {cs : List Char} (hlast : ∀ c ∈ cs.getLast?, isBlank c = false)
    (h : afterWord cs = []) : ∀ c ∈ cs, isBlank c = false := by
  let rest := cs.dropWhile fun c => !isBlank c
  have hcs : cs = cs.takeWhile (fun c => !isBlank c) ++ rest :=
    List.takeWhile_append_dropWhile.symm
  have hblank : ∀ c ∈ rest, isBlank c = true := List.all_eq_true.1 (trimLeft_eq_nil_iff.1 h)
  -- What is left behind the first word would end with white space, and so would the text.
  have hrest : rest = [] := by
    by_contra hne
    have hend : cs.getLast? = some (rest.getLast hne) := by
      rw [hcs, List.getLast?_append_of_ne_nil _ hne, List.getLast?_eq_getLast_of_ne_nil hne]
    have hlastblank := hblank _ (List.getLast_mem hne)
    rw [hlast _ hend] at hlastblank
    cases hlastblank
  intro c hc
  simpa using List.dropWhile_eq_nil_iff.1 hrest c hc

theorem exists_afterWord {cs : List Char} (h : afterWord cs ≠ []) :
    ∃ word blanks, cs = word ++ (blanks ++ afterWord cs) ∧ (∀ c ∈ word, isBlank c = false) ∧
      blanks ≠ [] ∧ allBlank blanks = true := by
  let rest := cs.dropWhile fun c => !isBlank c
  have hcs : cs = cs.takeWhile (fun c => !isBlank c) ++ rest :=
    List.takeWhile_append_dropWhile.symm
  have hrest : rest = rest.takeWhile isBlank ++ afterWord cs :=
    List.takeWhile_append_dropWhile.symm
  refine ⟨cs.takeWhile fun c => !isBlank c, rest.takeWhile isBlank, ?_, ?_, ?_, ?_⟩
  · rw [← hrest]
    exact hcs
  · intro c hc
    simpa using List.mem_takeWhile_imp hc
  · intro hnone
    -- The text behind the first word starts with white space.
    have hhead := head?_dropWhile_eq_false (fun c => !isBlank c) cs
    cases hstart : rest with
    | nil =>
      rw [hstart] at hrest
      exact h (List.append_eq_nil_iff.1 hrest.symm).2
    | cons c tail =>
      have hmem : c ∈ rest.head? := by
        rw [hstart]
        rfl
      have hc : isBlank c = true := by simpa using hhead c hmem
      rw [hstart, List.takeWhile_cons_of_pos hc] at hnone
      cases hnone
  · exact List.all_takeWhile

theorem ofLine_of_isBlankLine {line : String} (h : isBlankLine line = true) :
    ofLine line = .nothing :=
  if_pos h

theorem isBlankLine_eq_false_of_isLeaving {line : String} (h : isLeaving line = true) :
    isBlankLine line = false := by
  by_contra hblank
  rw [Bool.not_eq_false, isBlankLine, List.isEmpty_iff] at hblank
  rw [isLeaving, trim, hblank] at h
  exact absurd h (by decide +kernel)

theorem ofLine_of_isLeaving {line : String} (h : isLeaving line = true) : ofLine line = .leave := by
  have hblank : ¬ isBlankLine line = true := by
    rw [isBlankLine_eq_false_of_isLeaving h]
    exact Bool.false_ne_true
  exact (if_neg hblank).trans (if_pos h)

theorem ofLine_of_asksColumns {line : String} (hblank : isBlankLine line = false)
    (hleaving : isLeaving line = false) (h : asksColumns line = true) : ofLine line = .columns :=
  (if_neg (Bool.eq_false_iff.1 hblank)).trans
    ((if_neg (Bool.eq_false_iff.1 hleaving)).trans (if_pos (of_decide_eq_true h)))

/-- A line that gets a ticket is a question, or a statement to run, or the word for statements. -/
theorem ofLine_of_takesTicket {line : String} (h : takesTicket line = true) :
    (isStatement line = false ∧ ofLine line = .question (trim line)) ∨
      (isStatement line = true ∧ IsWord line ∧ ofLine line = .statement none) ∨
      ∃ text, isStatement line = true ∧ Gives line text ∧ ofLine line = .statement (some text) := by
  obtain ⟨hblank, hleaving, hcolumns⟩ := takesTicket_iff.1 h
  have hcs : (trim line).toList = trimChars line.toList := String.toList_ofList
  have hlast : ∀ c ∈ (trim line).toList.getLast?, isBlank c = false := by
    rw [hcs]
    exact getLast?_trimRight _
  let rest := afterWord (trim line).toList
  have hline : ofLine line =
      if isStatement line then .statement (if rest.isEmpty then none else some (String.ofList rest))
      else .question (trim line) := by
    have hother : ofLine line = _ := (if_neg (Bool.eq_false_iff.1 hblank)).trans
      ((if_neg (Bool.eq_false_iff.1 hleaving)).trans (if_neg (of_decide_eq_false hcolumns)))
    rw [hother]
    simp only [isStatement, rest, hcs]
    rfl
  by_cases hstatement : isStatement line = true
  · rw [if_pos hstatement] at hline
    by_cases hrest : rest = []
    · rw [hrest, List.isEmpty_nil, if_pos rfl] at hline
      exact Or.inr (Or.inl ⟨hstatement, notBlank_of_afterWord_eq_nil hlast hrest, hline⟩)
    · rw [List.isEmpty_eq_false_iff.2 hrest, if_neg Bool.false_ne_true] at hline
      obtain ⟨c, tail, hstart⟩ := List.exists_cons_of_ne_nil hrest
      have hhead : c ∈ rest.head? := by
        rw [hstart]
        rfl
      have hc : isBlank c = false := head?_dropWhile_eq_false isBlank _ c hhead
      have htext : (String.ofList rest).toList = rest := String.toList_ofList
      refine Or.inr (Or.inr ⟨String.ofList rest, hstatement, ⟨?_, c, ?_, hc⟩, hline⟩)
      · rw [htext]
        exact exists_afterWord hrest
      · rw [htext]
        exact hhead
  · rw [if_neg hstatement] at hline
    exact Or.inl ⟨Bool.eq_false_iff.2 hstatement, hline⟩

end Command

end TableTalk.Chat

import TableTalk.Log.FileName
import TableTalk.Proofs.Calendar.Iso
import TableTalk.Proofs.Text.Search

/-!
# The names of log files apart

A ticket without characters that have no place in a name stands in the name of its file as it is.
The time before it holds no dash, so tickets that differ have files that differ, and the names are
not too long for a file system.
-/

namespace TableTalk.Log

open Text
open Double (padZeros)

/-- A ticket that stands in the name of its file as it is. -/
structure IsTicket (ticket : String) : Prop where
  plain : ∀ c ∈ ticket.toList, isPlain c = true
  length_pos : 0 < ticket.length
  length_le : ticket.length ≤ 200

theorem toNat_lt_of_isPlain {c : Char} (h : isPlain c = true) : c.toNat < 128 := by
  by_cases hdash : c = '-'
  · rw [hdash]
    decide
  · apply toNat_lt_of_isWordAscii
    simpa [isPlain, isWordAscii, hdash] using h

theorem isBlank_of_isPlain {c : Char} (h : isPlain c = true) : isBlank c = false :=
  forall_ascii (p := fun c => isPlain c = true → isBlank c = false) (by decide)
    (toNat_lt_of_isPlain h) h

theorem dashRuns_eq_self {cs : List Char} (h : ∀ c ∈ cs, isPlain c = true) :
    dashRuns false cs = cs := by
  induction cs with
  | nil => rfl
  | cons c cs ih =>
    rw [dashRuns, if_pos (h c List.mem_cons_self), ih fun d hd => h d (List.mem_cons_of_mem c hd)]

theorem ticketName_eq_self {ticket : String} (h : IsTicket ticket) :
    ticketName ticket = ticket := by
  have hblank : ∀ c ∈ ticket.toList, isBlank c = false :=
    fun c hc => isBlank_of_isPlain (h.plain c hc)
  have htrim : trimChars ticket.toList = ticket.toList :=
    trimChars_eq_self (fun c hc => hblank c (List.mem_of_mem_head? hc))
      (fun c hc => hblank c (List.mem_of_mem_getLast? hc))
  rw [ticketName, htrim, dashRuns_eq_self h.plain]
  split
  · next hnil =>
    have hlength := h.length_pos
    rw [← String.length_toList, hnil] at hlength
    cases hlength
  · exact String.ofList_toList

theorem isPlain_of_mem_dashRuns {inRun : Bool} {cs : List Char} :
    ∀ c ∈ dashRuns inRun cs, isPlain c = true := by
  induction cs generalizing inRun with
  | nil => exact fun c hc => absurd hc List.not_mem_nil
  | cons d cs ih =>
    intro c hc
    rw [dashRuns] at hc
    by_cases hd : isPlain d = true
    · rw [if_pos hd] at hc
      rcases List.mem_cons.1 hc with rfl | hc
      · exact hd
      · exact ih c hc
    · rw [if_neg hd] at hc
      cases inRun with
      | true => exact ih c hc
      | false =>
        rcases List.mem_cons.1 hc with rfl | hc
        · rfl
        · exact ih c hc

theorem length_dashRuns_le (inRun : Bool) (cs : List Char) :
    (dashRuns inRun cs).length ≤ cs.length := by
  induction cs generalizing inRun with
  | nil => exact Nat.le_refl 0
  | cons d cs ih =>
    rw [dashRuns]
    split_ifs
    · exact Nat.succ_le_succ (ih false)
    · exact Nat.le_succ_of_le (ih true)
    · exact Nat.succ_le_succ (ih true)

/-- Whatever a ticket is, it stands in the name of its file as one that could have stood there as it
is. -/
theorem isTicket_ticketName {ticket : String} (h : ticket.length ≤ 200) :
    IsTicket (ticketName ticket) := by
  rw [ticketName]
  split
  · exact ⟨List.all_eq_true.1 (by decide), by decide, by decide⟩
  · next cs hne =>
    have hlength : (dashRuns false (trimChars ticket.toList)).length ≤ 200 :=
      calc (dashRuns false (trimChars ticket.toList)).length
          ≤ (trimChars ticket.toList).length := length_dashRuns_le _ _
        _ ≤ ticket.toList.length := (infix_trimChars _).length_le
        _ ≤ 200 := by rwa [String.length_toList]
    refine ⟨?_, ?_, ?_⟩
    · rw [String.toList_ofList]
      exact isPlain_of_mem_dashRuns
    · rw [String.length_ofList]
      exact List.length_pos_of_ne_nil hne
    · rw [String.length_ofList]
      exact hlength

def IsStamp (cs : List Char) : Prop :=
  ∀ c ∈ cs, c.isDigit = true ∨ c = 'T'

theorem IsStamp.append {a b : List Char} (ha : IsStamp a) (hb : IsStamp b) : IsStamp (a ++ b) :=
  fun c hc => (List.mem_append.1 hc).elim (ha c) (hb c)

theorem isStamp_repr (n : Nat) : IsStamp (toString n).toList :=
  fun _ hc => Or.inl (isDigit_of_mem_repr hc)

theorem isStamp_padZeros (width n : Nat) : IsStamp (padZeros width (toString n)).toList := by
  rw [padZeros, String.toList_append, String.toList_ofList]
  refine .append (fun c hc => Or.inl ?_) (isStamp_repr n)
  rw [List.eq_of_mem_replicate hc]
  rfl

theorem isStamp_momentName (m : Moment) : IsStamp (momentName m).toList := by
  have hmark : IsStamp "T".toList := fun c hc => Or.inr (List.mem_singleton.1 hc)
  simp only [momentName, Moment.two, String.toList_append]
  exact (((((((isStamp_repr _).append (isStamp_padZeros _ _)).append (isStamp_padZeros _ _)).append
    hmark).append (isStamp_padZeros _ _)).append (isStamp_padZeros _ _)).append
      (isStamp_padZeros _ _)).append (isStamp_padZeros _ _)

theorem length_padZeros {width n : Nat} (hwidth : 0 < width) (h : n < 10 ^ width) :
    (padZeros width (toString n)).length = width := by
  have hlength : (toString n).length ≤ width := (length_repr_le_iff hwidth).2 h
  rw [padZeros, String.length_append, String.length_ofList, List.length_replicate]
  omega

theorem length_momentName {m : Moment} (h : m.IsShown) : (momentName m).length ≤ 18 := by
  obtain ⟨hyear, hmonth, hday, hhour, hminute, hsecond, hmillis⟩ := h.bounds
  have hyear : (toString m.date.year).length ≤ 4 := (length_repr_le_iff (by decide)).2 hyear
  have hmark : "T".length = 1 := rfl
  simp only [momentName, Moment.two, String.length_append]
  rw [length_padZeros (by decide) hmonth, length_padZeros (by decide) hday,
    length_padZeros (by decide) hhour, length_padZeros (by decide) hminute,
    length_padZeros (by decide) hsecond, length_padZeros (by decide) hmillis, hmark]
  omega

theorem exists_stampName {now : Moment} (hnow : now.IsShown) (stamp : Option String) :
    ∃ m : Moment, m.IsShown ∧ stampName now stamp = momentName m := by
  refine ⟨_, ?_, rfl⟩
  cases hstamp : stamp.bind stampMoment? with
  | none => exact hnow
  | some m =>
    obtain ⟨s, -, hs⟩ := Option.bind_eq_some_iff.1 hstamp
    have hread : stampMoment? s = none ∨ ∃ text, stampMoment? s = Moment.ofIso? text :=
      (ite_eq_or_eq _ _ _).imp_right fun h => ⟨_, h⟩
    rcases hread with hnone | ⟨text, hread⟩
    · rw [hnone] at hs
      cases hs
    · exact Moment.isShown_of_ofIso? (hread.symm.trans hs)

theorem utf8ByteSize_of_isAscii {s : String} (h : IsAscii s.toList) :
    s.utf8ByteSize = s.toList.length := by
  rw [← String.ofList_toList (s := s), String.utf8ByteSize_ofList, String.toList_ofList]
  generalize s.toList = cs at h
  induction cs with
  | nil => rfl
  | cons c cs ih =>
    have hval : c.toNat ≤ 127 := Nat.le_of_lt_succ (h c List.mem_cons_self)
    have hc : c.utf8Size = 1 := Char.utf8Size_eq_one_iff.2 (UInt32.le_iff_toNat_le.2 hval)
    rw [String.utf8Len_cons, hc, ih fun d hd => h d (List.mem_cons_of_mem c hd), List.length_cons]

def IsNameOf (name ticket : String) : Prop :=
  ∃ stamp, IsStamp stamp ∧ stamp.length ≤ 18 ∧
    name.toList = stamp ++ '-' :: (ticket.toList ++ ".jsonl".toList)

theorem isNameOf_ticketName {now : Moment} (hnow : now.IsShown) (stamp : Option String)
    (ticket : String) : IsNameOf (fileName now stamp ticket) (ticketName ticket) := by
  obtain ⟨m, hm, hstamp⟩ := exists_stampName hnow stamp
  refine ⟨(momentName m).toList, isStamp_momentName m, ?_, ?_⟩
  · rw [String.length_toList]
    exact length_momentName hm
  · rw [fileName, hstamp]
    simp

theorem isNameOf_fileName {now : Moment} (hnow : now.IsShown) (stamp : Option String)
    {ticket : String} (h : IsTicket ticket) : IsNameOf (fileName now stamp ticket) ticket := by
  have hname := isNameOf_ticketName hnow stamp ticket
  rwa [ticketName_eq_self h] at hname

namespace IsNameOf

variable {name ticket ticket' : String}

theorem ticket_eq (h : IsNameOf name ticket) (h' : IsNameOf name ticket') : ticket = ticket' := by
  obtain ⟨stamp, hstamp, -, hname⟩ := h
  obtain ⟨stamp', hstamp', -, hname'⟩ := h'
  have hdash {stamp rest : List Char} (h : IsStamp stamp) :
      (stamp ++ '-' :: rest).dropWhile (· ≠ '-') = '-' :: rest := by
    refine dropWhile_append_of_head (fun c hc => decide_eq_true ?_) ?_
    · rintro rfl
      rcases h _ hc with hdigit | hmark
      · cases hdigit
      · cases hmark
    · rintro _ ⟨⟩
      rfl
  have hrest := congrArg (List.dropWhile (· ≠ '-')) (hname.symm.trans hname')
  rw [hdash hstamp, hdash hstamp'] at hrest
  exact String.toList_inj.1 (List.append_cancel_right (List.cons.inj hrest).2)

theorem isPlain_or_dot (h : IsNameOf name ticket) (ht : IsTicket ticket) :
    ∀ c ∈ name.toList, isPlain c = true ∨ c = '.' := by
  obtain ⟨stamp, hstamp, -, hname⟩ := h
  have hending : ".jsonl".toList.all (fun c => isPlain c || c == '.') = true := by decide
  intro c hc
  rw [hname] at hc
  rcases List.mem_append.1 hc with hc | hc
  · rcases hstamp c hc with hdigit | rfl
    · exact Or.inl (by simp [isPlain, Char.isAlphanum, hdigit])
    · exact Or.inl rfl
  · rcases List.mem_cons.1 hc with rfl | hc
    · exact Or.inl rfl
    · rcases List.mem_append.1 hc with hc | hc
      · exact Or.inl (ht.plain c hc)
      · simpa using List.all_eq_true.1 hending c hc

theorem notMem_nul (h : IsNameOf name ticket) (ht : IsTicket ticket) : '\x00' ∉ name.toList := by
  intro hmem
  rcases h.isPlain_or_dot ht _ hmem with hplain | hdot
  · exact absurd hplain (by decide)
  · exact absurd hdot (by decide)

theorem ne_dots (h : IsNameOf name ticket) : name ≠ ".." := by
  rintro rfl
  obtain ⟨stamp, -, -, hname⟩ := h
  have hdash : '-' ∈ "..".toList := hname ▸ List.mem_append_right _ List.mem_cons_self
  exact absurd hdash (by decide)

theorem utf8ByteSize_le (h : IsNameOf name ticket) (ht : IsTicket ticket) :
    name.utf8ByteSize ≤ 225 := by
  have hascii : IsAscii name.toList := by
    intro c hc
    rcases h.isPlain_or_dot ht c hc with hplain | rfl
    · exact toNat_lt_of_isPlain hplain
    · decide
  have hlength := ht.length_le
  obtain ⟨stamp, -, hstamp, hname⟩ := h
  have hending : ".jsonl".toList.length = 6 := rfl
  rw [utf8ByteSize_of_isAscii hascii, hname, List.length_append, List.length_cons,
    List.length_append, String.length_toList, hending]
  omega

end IsNameOf

end TableTalk.Log

import TableTalk.Proofs.Log.Journal

/-!
# Events that can always be added

A directory is ready for events if no directory stands where the file of a ticket would. Whatever
tickets come, a journal adds every event then whose record can be written to its end, and its
directory stays ready, also when a record broke off and when names were forgotten in between.
-/

namespace TableTalk.Log

open TableTalk.Action Text

def IsLogName (name : String) : Prop :=
  ∃ ticket, IsTicket ticket ∧ IsNameOf name ticket

theorem isLogName_fileName {now : Moment} (hnow : now.IsShown) (stamp : Option String)
    {ticket : String} (h : ticket.length ≤ 200) : IsLogName (fileName now stamp ticket) :=
  ⟨ticketName ticket, isTicket_ticketName h, isNameOf_ticketName hnow stamp ticket⟩

/-- A directory where every event has a file, or a place for one. -/
structure IsReady (base : Path) (w : World) : Prop where
  directory : w.files.HasDirectory base
  shown : w.now.IsShown
  remembered : ∀ e ∈ w.logNames, e.1.base = base.text → IsLogName e.2
  free : ∀ name, IsLogName name → w.files.entry? (base.names ++ [name]) ≠ some .directory

variable {base : Path} {w : World}

theorem IsReady.exists_entry (h : IsReady base w) {name : String} (hname : IsLogName name) :
    ∃ old : Option (List UInt8), w.files.entry? (base.names ++ [name]) = old.map .file := by
  have hfree := h.free name hname
  cases hentry : w.files.entry? (base.names ++ [name]) with
  | none => exact ⟨none, rfl⟩
  | some entry =>
    cases entry with
    | directory => exact absurd hentry hfree
    | file bytes => exact ⟨some bytes, rfl⟩

/-- A directory stays ready when a file is written under the name of a log file. -/
theorem IsReady.put (h : IsReady base w) (name : String) (bytes : List UInt8) {logNames : NameCache}
    (hremembered : ∀ e ∈ logNames, e.1.base = base.text → IsLogName e.2) :
    IsReady base
      { w with files := w.files.put (base.names ++ [name]) (.file bytes), logNames } where
  directory := h.directory.put _ _
  shown := h.shown
  remembered := hremembered
  free := by
    intro other hother
    rw [Files.entry?_put _ (by simp)]
    split
    · simp
    · exact h.free other hother

/-- An event is added if its record can be written to its end. In any case only files and names have
changed then, and the next event can be added. -/
theorem Journal.append_of_isReady {j : Journal} (hat : j.IsAt base w) (h : IsReady base w)
    {e : Event} (hticket : e.ticket.length ≤ 200) :
    ∃ files logNames, j.append e w = (appended (recordOf w.now e), { w with files, logNames }) ∧
      IsReady base { w with files, logNames } := by
  have hfresh := isLogName_fileName h.shown (some w.now.stamp) hticket
  -- The name may be an old one, made at another moment; it is the name of a log file all the same.
  obtain ⟨hused, hremembered⟩ :=
    NameCache.forall_mem_use (p := fun key name => key.base = base.text → IsLogName name)
      w.logNamesKept h.remembered (k := keyOf base e.ticket) fun _ => hfresh
  obtain ⟨ticket, hown, hname⟩ := hused rfl
  obtain ⟨old, hentry⟩ := h.exists_entry ⟨ticket, hown, hname⟩
  exact ⟨_, _, append_of_entry hat h.directory rfl hname hown hentry, h.put _ _ hremembered⟩

end TableTalk.Log

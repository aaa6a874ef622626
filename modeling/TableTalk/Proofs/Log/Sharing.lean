import TableTalk.Proofs.Calendar.Stamp
import TableTalk.Proofs.Log.Replies

/-!
# Tickets that share a file

The name of a file tells the millisecond of the first call for its ticket and the ticket with all
that has no place in a name taken out. Tickets that agree in both share a file, and then each of
them is read with the events of the other. Tickets that do not, whatever characters they have, are
apart.
-/

namespace TableTalk.Log

open TableTalk.Action Text
open NameCache (Remembers keys use)

/-- A stamp starts with a digit and ends in its `Z`. -/
theorem trimChars_stamp {m : Moment} (h : m.IsShown) :
    trimChars m.stamp.toList = m.stamp.toList := by
  obtain ⟨c, year, hyear, hc⟩ := h.rows.isYear.exists_cons
  have hblank : isBlank c = false := by
    refine isBlank_of_isPlain ?_
    simp [isPlain, Char.isAlphanum, hc]
  rw [h.toList_stamp]
  refine trimChars_eq_self ?_ ?_
  · rw [StampRows.date, hyear]
    rintro _ ⟨⟩
    exact hblank
  · rw [List.getLast?_concat]
    rintro _ ⟨⟩
    rfl

theorem stampMoment?_stamp {m : Moment} (h : m.IsShown) :
    stampMoment? m.stamp = some m.toMillis := by
  have hsuffix : ['Z'].isSuffixOf m.stamp.toList = true := by
    rw [h.toList_stamp]
    exact List.isSuffixOf_iff_suffix.2 (List.suffix_append _ _)
  have hbare : m.stamp.toList.dropLast = h.rows.date ++ 'T' :: h.rows.clock := by
    rw [h.toList_stamp, List.dropLast_concat]
  have hne : h.rows.date ++ 'T' :: h.rows.clock ≠ [] := by simp
  rw [stampMoment?, trimChars_stamp h, if_pos hsuffix, hbare, if_neg hne]
  exact h.rows.ofIso?_eq h

theorem momentName_toMillis (m : Moment) : momentName m.toMillis = momentName m := by
  rw [momentName, momentName, Moment.toMillis, Nat.mul_div_cancel _ (by decide)]

/-- A file is named for the present, whether the call brings a stamp of it or none. -/
theorem fileName_stamp {m : Moment} (h : m.IsShown) (ticket : String) :
    fileName m (some m.stamp) ticket = fileName m none ticket := by
  rw [fileName, fileName, stampName, stampName, Option.bind_some, stampMoment?_stamp h]
  exact congrArg (· ++ "-" ++ ticketName ticket ++ ".jsonl") (momentName_toMillis m)

theorem toList_momentName {m : Moment} (h : m.IsShown) :
    (momentName m).toList = (toString m.date.year).toList ++ h.rows.month ++ h.rows.day ++ ['T'] ++
      h.rows.hour ++ h.rows.minute ++ h.rows.second ++ h.rows.millis := by
  have hmark : "T".toList = ['T'] := rfl
  simp only [momentName, Moment.IsShown.rows, String.toList_append, hmark]

theorem momentName_eq_iff {m m' : Moment} (h : m.IsShown) (h' : m'.IsShown) :
    momentName m = momentName m' ↔ m.toMillis = m'.toMillis := by
  constructor
  · intro heq
    have hchars := (toList_momentName h).symm.trans
      ((congrArg String.toList heq).trans (toList_momentName h'))
    generalize h.rows = r, h'.rows = r' at hchars
    obtain ⟨hchars, hmillis⟩ := List.append_inj' hchars
      (r.isMillis.length.trans r'.isMillis.length.symm)
    obtain ⟨hchars, hsecond⟩ := List.append_inj' hchars
      (r.isSecond.length.trans r'.isSecond.length.symm)
    obtain ⟨hchars, hminute⟩ := List.append_inj' hchars
      (r.isMinute.length.trans r'.isMinute.length.symm)
    obtain ⟨hchars, hhour⟩ := List.append_inj' hchars
      (r.isHour.length.trans r'.isHour.length.symm)
    obtain ⟨hchars, -⟩ := List.append_inj' hchars rfl
    obtain ⟨hchars, hday⟩ := List.append_inj' hchars
      (r.isDay.length.trans r'.isDay.length.symm)
    obtain ⟨hyear, hmonth⟩ := List.append_inj' hchars
      (r.isMonth.length.trans r'.isMonth.length.symm)
    have hyear : m.date.year = m'.date.year := by
      rw [← numeral_repr m.date.year, ← numeral_repr m'.date.year]
      exact congrArg numeral hyear
    have hmonth : m.date.month = m'.date.month := r.isMonth.unique (hmonth ▸ r'.isMonth)
    have hday : m.date.day = m'.date.day := r.isDay.unique (hday ▸ r'.isDay)
    have hdate : m.date = m'.date := by
      cases hm : m.date
      cases hm' : m'.date
      simp_all
    have hhour : m.hour = m'.hour := r.isHour.unique (hhour ▸ r'.isHour)
    have hminute : m.minute = m'.minute := r.isMinute.unique (hminute ▸ r'.isMinute)
    have hsecond : m.second = m'.second := r.isSecond.unique (hsecond ▸ r'.isSecond)
    have hmillis : m.micro / 1000 = m'.micro / 1000 := r.isMillis.unique (hmillis ▸ r'.isMillis)
    rw [Moment.toMillis, Moment.toMillis, hdate, hhour, hminute, hsecond, hmillis]
  · intro heq
    rw [← momentName_toMillis m, heq, momentName_toMillis]

theorem fileName_eq_iff {m m' : Moment} (h : m.IsShown) (h' : m'.IsShown)
    (ticket ticket' : String) : fileName m none ticket = fileName m' none ticket' ↔
      m.toMillis = m'.toMillis ∧ ticketName ticket = ticketName ticket' := by
  have hfile (m : Moment) (ticket : String) :
      fileName m none ticket = momentName m ++ "-" ++ ticketName ticket ++ ".jsonl" := rfl
  constructor
  · intro hname
    have hticket : ticketName ticket = ticketName ticket' := by
      have hown := isNameOf_ticketName h none ticket
      rw [hname] at hown
      exact hown.ticket_eq (isNameOf_ticketName h' none ticket')
    have hmoment : momentName m = momentName m' := by
      have hchars := congrArg String.toList hname
      rw [hfile, hfile, hticket] at hchars
      simp only [String.toList_append] at hchars
      exact String.toList_inj.1
        (List.append_cancel_right (List.append_cancel_right (List.append_cancel_right hchars)))
    exact ⟨(momentName_eq_iff h h').1 hmoment, hticket⟩
  · rintro ⟨hmoment, hticket⟩
    rw [hfile, hfile, (momentName_eq_iff h h').2 hmoment, hticket]

/-- What tells a file from others: a millisecond, and a ticket as it stands in a name. -/
structure Place where
  moment : Moment
  ticket : String
  deriving DecidableEq

def firstMoment? (calls : List (Moment × Call)) (ticket : String) : Option Moment :=
  (calls.find? fun c => c.2.ticket = ticket).map Prod.fst

def placeOf (calls : List (Moment × Call)) (ticket : String) : Option Place :=
  (firstMoment? calls ticket).map fun m => ⟨m.toMillis, ticketName ticket⟩

def nameFor (calls : List (Moment × Call)) (ticket : String) : Option String :=
  (firstMoment? calls ticket).map fun m => fileName m none ticket

variable {calls done : List (Moment × Call)} {c : Moment × Call} {ticket ticket' name : String}

theorem firstMoment?_eq_none_iff : firstMoment? calls ticket = none ↔ ticket ∉ tickets calls := by
  rw [firstMoment?, Option.map_eq_none_iff, List.find?_eq_none, tickets, List.mem_map]
  constructor
  · rintro h ⟨c, hc, rfl⟩
    exact h c hc (decide_eq_true rfl)
  · intro h c hc heq
    exact h ⟨c, hc, of_decide_eq_true heq⟩

theorem exists_firstMoment? (h : ticket ∈ tickets calls) :
    ∃ m, firstMoment? calls ticket = some m := by
  cases hfirst : firstMoment? calls ticket with
  | none => exact absurd h (firstMoment?_eq_none_iff.1 hfirst)
  | some m => exact ⟨m, rfl⟩

theorem isShown_of_firstMoment? (hclock : ∀ c ∈ calls, c.1.IsShown) {m : Moment}
    (h : firstMoment? calls ticket = some m) : m.IsShown := by
  obtain ⟨c, hfind, rfl⟩ := Option.map_eq_some_iff.1 h
  exact hclock c (List.mem_of_find?_eq_some hfind)

/-- The first call for a ticket stays the first. -/
theorem firstMoment?_append (h : ticket ∈ tickets done) (more : List (Moment × Call)) :
    firstMoment? (done ++ more) ticket = firstMoment? done ticket := by
  obtain ⟨m, hm⟩ := exists_firstMoment? h
  obtain ⟨c, hfind, rfl⟩ := Option.map_eq_some_iff.1 hm
  rw [firstMoment?, firstMoment?, List.find?_append, hfind]
  rfl

theorem firstMoment?_new (h : c.2.ticket ∉ tickets done) :
    firstMoment? (done ++ [c]) c.2.ticket = some c.1 := by
  have hnone := firstMoment?_eq_none_iff.2 h
  rw [firstMoment?, Option.map_eq_none_iff] at hnone
  rw [firstMoment?, List.find?_append, hnone, Option.none_or]
  exact congrArg (Option.map Prod.fst) (List.find?_cons_of_pos (decide_eq_true rfl))

theorem firstMoment?_other (h : c.2.ticket ≠ ticket) :
    firstMoment? (done ++ [c]) ticket = firstMoment? done ticket := by
  rw [firstMoment?, firstMoment?, List.find?_append,
    List.find?_cons_of_neg (by simpa using h), List.find?_nil, Option.or_none]

/-- Two tickets have files of one name exactly if they have one place. -/
theorem nameFor_eq_iff (hclock : ∀ c ∈ calls, c.1.IsShown) (h : ticket ∈ tickets calls)
    (h' : ticket' ∈ tickets calls) :
    nameFor calls ticket = nameFor calls ticket' ↔
      placeOf calls ticket = placeOf calls ticket' := by
  obtain ⟨m, hm⟩ := exists_firstMoment? h
  obtain ⟨m', hm'⟩ := exists_firstMoment? h'
  have hfiles := fileName_eq_iff (isShown_of_firstMoment? hclock hm)
    (isShown_of_firstMoment? hclock hm') ticket ticket'
  rw [nameFor, nameFor, placeOf, placeOf, hm, hm']
  simpa only [Option.map_some, Option.some_inj, Place.mk.injEq] using hfiles

def recordsWhere (p : String → Prop) [DecidablePred p] (calls : List (Moment × Call)) : List Json :=
  calls.filterMap fun
    | (m, .log e) => if p e.ticket then some (recordOf m e) else none
    | (_, .read _) => none

variable {p q : String → Prop} [DecidablePred p] [DecidablePred q]

theorem recordsWhere_append (a b : List (Moment × Call)) :
    recordsWhere p (a ++ b) = recordsWhere p a ++ recordsWhere p b :=
  List.filterMap_append

theorem recordsWhere_congr (h : ∀ ticket ∈ tickets calls, p ticket ↔ q ticket) :
    recordsWhere p calls = recordsWhere q calls := by
  refine List.filterMap_congr fun c hc => ?_
  have hc : p c.2.ticket ↔ q c.2.ticket := h _ (List.mem_map_of_mem hc)
  obtain ⟨m, call⟩ := c
  cases call with
  | log e => exact if_congr hc rfl rfl
  | read ticket => rfl

theorem mem_recordsWhere_iff {r : Json} :
    r ∈ recordsWhere p calls ↔ ∃ m e, (m, Call.log e) ∈ calls ∧ p e.ticket ∧ r = recordOf m e := by
  rw [recordsWhere, List.mem_filterMap]
  constructor
  · rintro ⟨⟨m, call⟩, hc, hr⟩
    cases call with
    | log e =>
      dsimp only at hr
      split at hr
      · next hp => exact ⟨m, e, hc, hp, (Option.some.inj hr).symm⟩
      · cases hr
    | read ticket => cases hr
  · rintro ⟨m, e, hc, hp, rfl⟩
    exact ⟨(m, .log e), hc, if_pos hp⟩

variable {base : Path} {w : World}

/-- The names and the files that calls left behind while no ticket was forgotten. -/
structure Shares (base : Path) (done : List (Moment × Call)) (w : World) : Prop where
  directory : w.files.HasDirectory base
  nodup : (keys w.logNames).Nodup
  seen : ∀ ticket, keyOf base ticket ∈ keys w.logNames → ticket ∈ tickets done
  known : ∀ ticket name, nameFor done ticket = some name →
    Remembers w.logNames (keyOf base ticket) name
      (((tickets done).filter (· ≠ ticket)).map (keyOf base))
  files : ∀ name, w.files.entry? (base.names ++ [name]) =
    entryOf (recordsWhere (fun ticket => nameFor done ticket = some name) done)

theorem nameFor_append (h : ticket ∈ tickets done) (more : List (Moment × Call)) :
    nameFor (done ++ more) ticket = nameFor done ticket := by
  rw [nameFor, nameFor, firstMoment?_append h]

theorem mem_tickets_of_nameFor (h : nameFor done ticket = some name) : ticket ∈ tickets done := by
  by_contra hnot
  rw [nameFor, firstMoment?_eq_none_iff.2 hnot] at h
  cases h

theorem isNameOf_nameFor (hclock : ∀ c ∈ calls, c.1.IsShown)
    (h : nameFor calls ticket = some name) : IsNameOf name (ticketName ticket) := by
  obtain ⟨m, hm, rfl⟩ := Option.map_eq_some_iff.1 h
  exact isNameOf_ticketName (isShown_of_firstMoment? hclock hm) none ticket

theorem card_filter_ne_lt {tickets : List String} (h : ticket ∈ tickets) :
    (tickets.filter (· ≠ ticket)).toFinset.card < tickets.toFinset.card := by
  refine Finset.card_lt_card (Finset.ssubset_iff_subset_ne.2 ⟨fun t ht => ?_, fun heq => ?_⟩)
  · rw [List.mem_toFinset] at ht ⊢
    exact List.mem_of_mem_filter ht
  · rw [← List.mem_toFinset, ← heq, List.mem_toFinset] at h
    exact of_decide_eq_true (List.mem_filter.1 h).2 rfl

/-- The records that were in a file before a call are in it still. -/
theorem recordsWhere_nameFor_append (done : List (Moment × Call)) (c : Moment × Call)
    (name : String) :
    recordsWhere (fun ticket => nameFor (done ++ [c]) ticket = some name) done =
      recordsWhere (fun ticket => nameFor done ticket = some name) done := by
  refine recordsWhere_congr fun ticket h => ?_
  rw [nameFor_append h]

namespace Shares

/-- A call uses the name that its ticket got by its first call. -/
theorem named (h : Shares base done w)
    (hfew : (tickets (done ++ [c])).toFinset.card ≤ w.logNamesKept) :
    let used := use w.logNamesKept (keyOf base c.2.ticket) (fileName c.1 none c.2.ticket) w.logNames
    nameFor (done ++ [c]) c.2.ticket = some used.1 ∧
      Remembers used.2 (keyOf base c.2.ticket) used.1 [] := by
  intro used
  by_cases hseen : c.2.ticket ∈ tickets done
  · obtain ⟨m, hm⟩ := exists_firstMoment? hseen
    have hname : nameFor done c.2.ticket = some (fileName m none c.2.ticket) := by
      rw [nameFor, hm, Option.map_some]
    obtain ⟨hused, hlast⟩ : used.1 = fileName m none c.2.ticket ∧
        Remembers used.2 (keyOf base c.2.ticket) (fileName m none c.2.ticket) [] :=
      (h.known _ _ hname).use_self h.nodup
    rw [nameFor_append hseen, hname, hused]
    exact ⟨rfl, hlast⟩
  · have hkey : keyOf base c.2.ticket ∉ keys w.logNames := fun hmem => hseen (h.seen _ hmem)
    have hpos : 0 < w.logNamesKept := by
      refine Nat.lt_of_lt_of_le (Finset.card_pos.2 ⟨c.2.ticket, ?_⟩) hfew
      rw [List.mem_toFinset, tickets_concat]
      exact List.mem_append_right _ List.mem_cons_self
    obtain ⟨hused, hlast⟩ : used.1 = fileName c.1 none c.2.ticket ∧
        Remembers used.2 (keyOf base c.2.ticket) (fileName c.1 none c.2.ticket) [] :=
      NameCache.remembers_use_fresh hkey hpos
    rw [nameFor, firstMoment?_new hseen, Option.map_some, hused]
    exact ⟨rfl, hlast⟩

/-- A call leaves every name known and only changes what is in the file of its ticket. -/
theorem step (h : Shares base done w)
    (hfew : (tickets (done ++ [c])).toFinset.card ≤ w.logNamesKept) {files : Files}
    (hdirectory : files.HasDirectory base)
    (hfiles : ∀ name, files.entry? (base.names ++ [name]) =
      entryOf (recordsWhere (fun ticket => nameFor (done ++ [c]) ticket = some name)
        (done ++ [c]))) :
    Shares base (done ++ [c])
      { w with
        files := files
        logNames := (use w.logNamesKept (keyOf base c.2.ticket) (fileName c.1 none c.2.ticket)
          w.logNames).2 } where
  directory := hdirectory
  nodup := NameCache.nodup_use h.nodup
  seen := fun _ => mem_tickets_of_mem_use h.seen
  known := by
    intro ticket name hname
    by_cases hticket : c.2.ticket = ticket
    · subst hticket
      obtain ⟨hused, hlast⟩ := h.named hfew
      rw [hused] at hname
      rw [← Option.some.inj hname]
      exact hlast.mono (List.nil_subset _)
    · have hold : nameFor done ticket = some name := by
        rw [nameFor, firstMoment?_other hticket] at hname
        exact hname
      have hfilter : (tickets (done ++ [c])).filter (· ≠ ticket) =
          (tickets done).filter (· ≠ ticket) ++ [c.2.ticket] := by
        rw [tickets_concat, List.filter_append]
        exact congrArg _ (List.filter_cons_of_pos (decide_eq_true hticket))
      have hless : ((tickets (done ++ [c])).filter (· ≠ ticket)).toFinset.card <
          w.logNamesKept := by
        refine Nat.lt_of_lt_of_le (card_filter_ne_lt ?_) hfew
        rw [tickets_concat]
        exact List.mem_append_left _ (mem_tickets_of_nameFor hold)
      rw [hfilter] at hless ⊢
      rw [← card_map_keyOf base, List.map_append] at hless
      rw [List.map_append]
      exact (h.known ticket name hold).use_other h.nodup
        (fun heq => hticket (keyOf_injective base heq).symm) hless
  files := hfiles

theorem step_read (h : Shares base done w) {m : Moment}
    (hfew : (tickets (done ++ [(m, .read ticket)])).toFinset.card ≤ w.logNamesKept) :
    Shares base (done ++ [(m, .read ticket)])
      { w with logNames := (use w.logNamesKept (keyOf base ticket) (fileName m none ticket)
        w.logNames).2 } := by
  refine h.step (c := (m, .read ticket)) hfew h.directory fun name => ?_
  rw [recordsWhere_append, recordsWhere_nameFor_append, h.files name]
  exact congrArg entryOf (List.append_nil _).symm

theorem step_log (h : Shares base done w) {m : Moment} {e : Event}
    (hfew : (tickets (done ++ [(m, .log e)])).toFinset.card ≤ w.logNamesKept)
    (hname : nameFor (done ++ [(m, .log e)]) e.ticket = some name) :
    Shares base (done ++ [(m, .log e)])
      { w with
        files := w.files.put (base.names ++ [name])
          (.file ((bytesOf (recordsWhere (fun ticket => nameFor done ticket = some name) done)).getD
            [] ++ encodeUtf8 ((recordOf m e).write ++ "\n").toList))
        logNames := (use w.logNamesKept (keyOf base e.ticket) (fileName m none e.ticket)
          w.logNames).2 } := by
  refine h.step (c := (m, .log e)) hfew (h.directory.put _ _) fun other => ?_
  refine (Files.entry?_put _ (by simp) _ _).trans ?_
  rw [recordsWhere_append, recordsWhere_nameFor_append]
  by_cases hother : other = name
  · have hone : recordsWhere (fun ticket => nameFor (done ++ [(m, .log e)]) ticket = some name)
        [(m, .log e)] = [recordOf m e] := by
      simp [recordsWhere, hname]
    rw [if_pos (by rw [hother]), hother, hone, entryOf, bytesOf_append]
    rfl
  · have hnone : recordsWhere (fun ticket => nameFor (done ++ [(m, .log e)]) ticket = some other)
        [(m, .log e)] = [] := by
      simp [recordsWhere, hname, Ne.symm hother]
    rw [if_neg (fun heq => hother (List.singleton_inj.1 (List.append_cancel_left heq))), hnone,
      List.append_nil]
    exact h.files other

end Shares

/-- What a reading gets after calls: the records of all tickets that have its place. -/
def sharedRecords (done : List (Moment × Call)) (m : Moment) (ticket : String) : List Json :=
  recordsWhere (fun other => placeOf (done ++ [(m, .read ticket)]) other =
    placeOf (done ++ [(m, .read ticket)]) ticket) done

def sharedReply (done : List (Moment × Call)) : Moment × Call → Option (List Json)
  | (_, .log _) => none
  | (m, .read ticket) => some (sharedRecords done m ticket)

def sharedReplies : (done calls : List (Moment × Call)) → List (Option (List Json))
  | _, [] => []
  | done, c :: calls => sharedReply done c :: sharedReplies (done ++ [c]) calls

theorem sharedRecords_eq {m : Moment}
    (hclock : ∀ c ∈ done ++ [(m, .read ticket)], c.1.IsShown)
    (hname : nameFor (done ++ [(m, .read ticket)]) ticket = some name) :
    sharedRecords done m ticket =
      recordsWhere (fun other => nameFor done other = some name) done := by
  rw [← recordsWhere_nameFor_append done (m, .read ticket) name, sharedRecords]
  refine recordsWhere_congr fun other hother => ?_
  have hmem : other ∈ tickets (done ++ [(m, .read ticket)]) := by
    rw [tickets_concat]
    exact List.mem_append_left _ hother
  rw [← nameFor_eq_iff hclock hmem (mem_tickets_of_nameFor hname), hname]

theorem get?_recordOf (m : Moment) (e : Event) :
    (recordOf m e).get? "ticket_id" = some (.text e.ticket) :=
  rfl

/-- A reading gets only records of its ticket exactly if no event was logged for another ticket with
its place. -/
theorem forall_mem_sharedRecords_iff {m : Moment} :
    (∀ r ∈ sharedRecords done m ticket, r.get? "ticket_id" = some (.text ticket)) ↔
      ∀ m' e, (m', Call.log e) ∈ done → placeOf (done ++ [(m, .read ticket)]) e.ticket =
        placeOf (done ++ [(m, .read ticket)]) ticket → e.ticket = ticket := by
  constructor
  · intro h m' e hc hplace
    have hid := h (recordOf m' e) (mem_recordsWhere_iff.2 ⟨m', e, hc, hplace, rfl⟩)
    rw [get?_recordOf] at hid
    exact Json.text.inj (Option.some.inj hid)
  · intro h r hr
    obtain ⟨m', e, hc, hplace, rfl⟩ := mem_recordsWhere_iff.1 hr
    rw [get?_recordOf, h m' e hc hplace]

namespace Journal

variable {j : Journal}

structure AreShort (calls : List (Moment × Call)) : Prop where
  shown : ∀ c ∈ calls, c.1.IsShown
  tickets : ∀ c ∈ calls, c.2.ticket.length ≤ 200
  payloads : ∀ m e, (m, Call.log e) ∈ calls → IsLegible e

theorem AreShort.of_append {a b : List (Moment × Call)} (h : AreShort (a ++ b)) : AreShort a :=
  ⟨fun c hc => h.shown c (List.mem_append_left _ hc),
    fun c hc => h.tickets c (List.mem_append_left _ hc),
    fun m e hc => h.payloads m e (List.mem_append_left _ hc)⟩

theorem isReadable_of_mem_recordsWhere (h : AreShort calls) :
    ∀ r ∈ recordsWhere p calls, IsReadable r := by
  intro r hr
  obtain ⟨m, e, hc, -, rfl⟩ := mem_recordsWhere_iff.1 hr
  exact isReadable_recordOf (h.payloads m e hc) m

theorem answer_shared (h : j.IsAt base w) (hshares : Shares base done w) {call : Call}
    (hshort : AreShort (done ++ [(w.now, call)]))
    (hfew : (tickets (done ++ [(w.now, call)])).toFinset.card ≤ w.logNamesKept) :
    ∃ w', j.answer call w = (.ok (sharedReply done (w.now, call)), w') ∧
      Shares base (done ++ [(w.now, call)]) w' ∧ j.IsAt base w' ∧
        w'.logNamesKept = w.logNamesKept := by
  have hmem : (w.now, call) ∈ done ++ [(w.now, call)] :=
    List.mem_append_right _ List.mem_cons_self
  have hticket := isTicket_ticketName (hshort.tickets _ hmem)
  obtain ⟨hfirst, -⟩ := hshares.named hfew
  have hname := isNameOf_nameFor hshort.shown hfirst
  have hentry := hshares.files (use w.logNamesKept (keyOf base call.ticket)
    (fileName w.now none call.ticket) w.logNames).1
  cases call with
  | log e =>
    have hused := congrArg (fun fresh => use w.logNamesKept (keyOf base e.ticket) fresh w.logNames)
      (fileName_stamp (hshort.shown _ hmem) e.ticket)
    have hrecord := isReadable_recordOf (hshort.payloads _ e hmem) w.now
    have hrun := append_of_isWritable h hshares.directory hused hname hticket hentry
      hrecord.isWritable
    refine ⟨_, ?_, hshares.step_log hfew hfirst, h.congr rfl rfl rfl, rfl⟩
    rw [answer]
    exact bind_of_ok hrun
  | read ticket =>
    have hdone : AreShort done := hshort.of_append
    have hrun := records_of_entry h hshares.directory rfl hname hticket hentry fun r hr =>
      (isReadable_of_mem_recordsWhere hdone r hr).toIsRecord
    rw [mapM_readRecord (isReadable_of_mem_recordsWhere hdone)] at hrun
    refine ⟨_, ?_, hshares.step_read hfew, h.congr rfl rfl rfl, rfl⟩
    rw [answer, sharedReply, sharedRecords_eq hshort.shown hfirst]
    exact bind_of_ok hrun

theorem answers_shared (h : j.IsAt base w) (hshares : Shares base done w)
    (hshort : AreShort (done ++ calls))
    (hfew : (tickets (done ++ calls)).toFinset.card ≤ w.logNamesKept) :
    (j.answers calls w).1 = .ok (sharedReplies done calls) := by
  induction calls generalizing done w with
  | nil => rfl
  | cons c calls ih =>
    have hassoc : done ++ c :: calls = done ++ [c] ++ calls := by simp
    rw [hassoc] at hshort hfew
    have hfirst : (tickets (done ++ [c])).toFinset.card ≤ w.logNamesKept := by
      refine Nat.le_trans (Finset.card_le_card fun t ht => ?_) hfew
      rw [List.mem_toFinset] at ht ⊢
      rw [tickets_append]
      exact List.mem_append_left _ ht
    obtain ⟨w', hrun, hshares', hat', hkept⟩ := answer_shared (w := { w with now := c.1 })
      (h.congr rfl rfl rfl)
      ⟨hshares.directory, hshares.nodup, hshares.seen, hshares.known, hshares.files⟩
      hshort.of_append hfirst
    rw [answers_cons hrun, ih hat' hshares' hshort (hkept ▸ hfew)]
    rfl

theorem StartsEmpty.shares (h : StartsEmpty base w) : Shares base [] w where
  directory := h.directory
  nodup := h.nodup
  seen := fun ticket hmem => absurd hmem (h.unknown ticket)
  known := fun _ _ hname => absurd (mem_tickets_of_nameFor hname) List.not_mem_nil
  files := h.empty

/-- A journal that starts empty, with no more tickets than it remembers, answers every reading with
the records of all tickets that have one place with its own. So a ticket, whatever characters it
has, is read with its own records alone exactly if no other ticket with an event so far has its
place. -/
theorem answers_eq_sharedReplies (hat : j.IsAt base w) (hempty : StartsEmpty base w)
    (hclock : ∀ c ∈ calls, c.1.IsShown) (hlength : ∀ c ∈ calls, c.2.ticket.length ≤ 200)
    (hpayloads : ∀ m e, (m, Call.log e) ∈ calls → IsLegible e)
    (hfew : (tickets calls).toFinset.card ≤ w.logNamesKept) :
    (j.answers calls w).1 = .ok (sharedReplies [] calls) ∧
      ∀ done m ticket later, calls = done ++ (m, .read ticket) :: later →
        ((∀ r ∈ sharedRecords done m ticket, r.get? "ticket_id" = some (.text ticket)) ↔
          ∀ m' e, (m', Call.log e) ∈ done → placeOf (done ++ [(m, .read ticket)]) e.ticket =
            placeOf (done ++ [(m, .read ticket)]) ticket → e.ticket = ticket) :=
  ⟨answers_shared hat hempty.shares ⟨hclock, hlength, hpayloads⟩ hfew,
    fun _ _ _ _ _ => forall_mem_sharedRecords_iff⟩

/-- An event of the ticket `a b` at nine o'clock, one of the ticket `a-b` so many milliseconds
later, and a reading of the first ticket. -/
def dashedCalls (millis : Nat) : List (Moment × Call) :=
  [(⟨⟨2024, 1, 1⟩, 9, 0, 0, 0, none⟩, .log ⟨"a b", "question_received", []⟩),
    (⟨⟨2024, 1, 1⟩, 9, 0, 0, millis * 1000, none⟩, .log ⟨"a-b", "question_received", []⟩),
    (⟨⟨2024, 1, 1⟩, 9, 0, 0, millis * 1000, none⟩, .read "a b")]

theorem areShort_dashedCalls {millis : Nat} (h : millis < 1000) :
    AreShort (dashedCalls millis) := by
  have hnine : (⟨⟨2024, 1, 1⟩, 9, 0, 0, 0, none⟩ : Moment).IsShown := by decide
  have hlater : (⟨⟨2024, 1, 1⟩, 9, 0, 0, millis * 1000, none⟩ : Moment).IsShown := by
    refine ⟨hnine.date, hnine.hour, hnine.minute, hnine.second, ?_⟩
    simp only [Moment.microsPerSecond]
    omega
  refine ⟨?_, ?_, ?_⟩
  · simp only [dashedCalls, List.forall_mem_cons, List.not_mem_nil, false_implies, implies_true,
      and_true]
    exact ⟨hnine, hlater, hlater⟩
  · simp only [dashedCalls, List.forall_mem_cons, List.not_mem_nil, false_implies, implies_true,
      and_true]
    decide
  · intro m e hc
    simp only [dashedCalls, List.mem_cons, List.not_mem_nil, or_false, Prod.mk.injEq, reduceCtorEq,
      and_false, Call.log.injEq] at hc
    rcases hc with ⟨-, rfl⟩ | ⟨-, rfl⟩ <;> exact isLegible_nil _ _

theorem answers_eq_sharedReplies_dashed :
    ((⟨⟨"/", ["logs"]⟩⟩ : Journal).answers (dashedCalls 1) logsWorld).1 =
      .ok [none, none, some [.record [("ticket_id", .text "a b"),
        ("event", .text "question_received"),
        ("timestamp", .text "2024-01-01T09:00:00.000Z")]]] := by
  have hshort : AreShort (dashedCalls 1) := areShort_dashedCalls (by decide)
  have hrun := answers_eq_sharedReplies isAt_logsWorld startsEmpty_logsWorld hshort.shown
    hshort.tickets hshort.payloads (by decide)
  exact hrun.1.trans rfl

/-- In the same millisecond the two tickets share a file, and the first is read with the event of
the second. -/
theorem not_apart_dashed :
    ((⟨⟨"/", ["logs"]⟩⟩ : Journal).answers (dashedCalls 0) logsWorld).1 =
      .ok [none, none, some [.record [("ticket_id", .text "a b"),
          ("event", .text "question_received"), ("timestamp", .text "2024-01-01T09:00:00.000Z")],
        .record [("ticket_id", .text "a-b"), ("event", .text "question_received"),
          ("timestamp", .text "2024-01-01T09:00:00.000Z")]]] := by
  have hshort : AreShort ([] ++ dashedCalls 0) := areShort_dashedCalls (by decide)
  exact (answers_shared isAt_logsWorld startsEmpty_logsWorld.shares hshort (by decide)).trans rfl

end Journal

end TableTalk.Log

import TableTalk.Proofs.Json.Draft
import TableTalk.Proofs.Log.FileName
import TableTalk.Proofs.Log.Lines
import TableTalk.Proofs.Log.NameCache
import TableTalk.Proofs.World.Action
import TableTalk.Proofs.World.Files

/-!
# The journal reads back what was written

Events of any number of tickets are added and read in any order. As long as no ticket is forgotten
between two of its calls, each reading gives the records of the events of its ticket so far.
-/

namespace TableTalk.Log

open TableTalk.Action Text
open Json (IsValue IsWritable NestsWithin nestingLimit writingLimit)
open NameCache (Remembers keys use)

inductive Call where
  | log (e : Event)
  | read (ticket : String)

def Call.ticket : Call → String
  | log e => e.ticket
  | read ticket => ticket

def tickets (calls : List (Moment × Call)) : List String :=
  calls.map fun c => c.2.ticket

theorem tickets_append (a b : List (Moment × Call)) : tickets (a ++ b) = tickets a ++ tickets b :=
  List.map_append

theorem tickets_concat (done : List (Moment × Call)) (c : Moment × Call) :
    tickets (done ++ [c]) = tickets done ++ [c.2.ticket] :=
  tickets_append done [c]

namespace Journal

def answer (j : Journal) : Call → Action (Option (List Json))
  | .log e => do
    j.append e
    return none
  | .read ticket => do
    let records ← j.records ticket
    return some records

def answers (j : Journal) : List (Moment × Call) → Action (List (Option (List Json)))
  | [] => return []
  | c :: calls => do
    modify fun w => { w with now := c.1 }
    let first ← j.answer c.2
    let others ← j.answers calls
    return first :: others

variable {j : Journal} {c : Moment × Call} {calls : List (Moment × Call)} {w w' : World}

theorem answer_log {e : Event} {r : Except Failure Unit} (h : j.append e w = (r, w')) :
    j.answer (.log e) w = (r.map fun _ => none, w') := by
  cases r with
  | ok _ => exact bind_of_ok h
  | error f => exact bind_of_error h

theorem answer_read {ticket : String} {r : Except Failure (List Json)}
    (h : j.records ticket w = (r, w')) : j.answer (.read ticket) w = (r.map some, w') := by
  cases r with
  | ok records => exact bind_of_ok h
  | error f => exact bind_of_error h

theorem clock_run (m : Moment) (w : World) :
    (modify fun w => { w with now := m } : Action PUnit) w = (.ok (), { w with now := m }) :=
  rfl

theorem answers_cons {first : Option (List Json)}
    (h : j.answer c.2 { w with now := c.1 } = (.ok first, w')) :
    (j.answers (c :: calls) w).1 = (j.answers calls w').1.map fun others => first :: others := by
  rw [answers, bind_of_ok (clock_run c.1 w), bind_of_ok h]
  rcases hrest : j.answers calls w' with ⟨f | others, w''⟩
  · rw [bind_of_error hrest]
    rfl
  · rw [bind_of_ok hrest]
    rfl

theorem answers_cons_error {f : Failure}
    (h : j.answer c.2 { w with now := c.1 } = (.error f, w')) :
    (j.answers (c :: calls) w).1 = .error f := by
  rw [answers, bind_of_ok (clock_run c.1 w), bind_of_error h]

end Journal

def recordOf (m : Moment) (e : Event) : Json :=
  .record ([("ticket_id", .text e.ticket), ("event", .text e.name), ("timestamp", .text m.stamp)]
    ++ e.payload.filter fun (n, v) =>
      !isNull v && n ≠ "ticket_id" && n ≠ "event" && n ≠ "timestamp")

def recordsOf (ticket : String) (calls : List (Moment × Call)) : List Json :=
  calls.filterMap fun
    | (m, .log e) => if e.ticket = ticket then some (recordOf m e) else none
    | (_, .read _) => none

/-- What a call should be answered after others. -/
def replyTo (done : List (Moment × Call)) : Call → Option (List Json)
  | .log _ => none
  | .read ticket => some (recordsOf ticket done)

def replies : (done calls : List (Moment × Call)) → List (Option (List Json))
  | _, [] => []
  | done, c :: calls => replyTo done c.2 :: replies (done ++ [c]) calls

/-- Between two calls for a ticket there are calls for fewer other tickets than are remembered. -/
def StayKnown (size : Nat) (tickets : List String) : Prop :=
  ∀ before ticket between after, tickets = before ++ ticket :: (between ++ ticket :: after) →
    ticket ∉ between → between.toFinset.card < size

theorem StayKnown.of_append {size : Nat} {a b : List String} (h : StayKnown size (a ++ b)) :
    StayKnown size a := by
  rintro before ticket between after rfl hbetween
  exact h before ticket between (after ++ b) (by simp) hbetween

theorem stayKnown_of_length {size : Nat} {tickets : List String} (h : tickets.length ≤ size) :
    StayKnown size tickets := by
  rintro before ticket between after rfl -
  have hcard := List.toFinset_card_le between
  simp only [List.length_append, List.length_cons] at h
  omega

theorem record_eq (m : Moment) (e : Event) : Json.record (record e m.stamp) = recordOf m e := by
  rw [record, recordOf]
  congr 2
  refine List.filter_congr fun f _ => ?_
  simp [fixedFields, Bool.and_assoc]

theorem nodup_record {e : Event} (h : (e.payload.map Prod.fst).Nodup) (stamp : String) :
    ((record e stamp).map Prod.fst).Nodup := by
  rw [record, List.map_append]
  refine List.nodup_append.2 ⟨?_, (List.filter_sublist.map Prod.fst).nodup h, ?_⟩
  · exact (by decide : fixedFields.Nodup)
  · rintro name hname _ hmore rfl
    obtain ⟨f, hf, rfl⟩ := List.mem_map.1 hmore
    have hkept := (Bool.and_eq_true_iff.1 (List.mem_filter.1 hf).2).2
    rw [Bool.not_eq_true', ← Bool.not_eq_true, List.contains_iff_mem] at hkept
    exact hkept hname

theorem mem_record {e : Event} {stamp : String} {f : String × Json} (h : f ∈ record e stamp) :
    (∃ s, f.2 = .text s) ∨ f ∈ e.payload := by
  rcases List.mem_append.1 h with h | h
  · simp only [List.mem_cons, List.not_mem_nil, or_false] at h
    rcases h with rfl | rfl | rfl <;> exact Or.inl ⟨_, rfl⟩
  · exact Or.inr (List.mem_filter.1 h).1

/-- What an event carries can be written and read back. No whole number in it has more than
`digitLimit` digits, and it is nested no deeper than `nestingLimit`. -/
structure IsLegible (e : Event) : Prop where
  isValue : IsValue (.record e.payload)
  nests : NestsWithin nestingLimit (.record e.payload)

theorem isLegible_nil (ticket name : String) : IsLegible ⟨ticket, name, []⟩ :=
  ⟨.record List.nodup_nil fun _ hf => absurd hf List.not_mem_nil,
    .record fun _ hf => absurd hf List.not_mem_nil⟩

theorem isRecord_recordOf {e : Event} (h : IsValue (.record e.payload)) (m : Moment) :
    IsRecord (recordOf m e) := by
  obtain ⟨hnames, hvalues⟩ : (e.payload.map Prod.fst).Nodup ∧ ∀ f ∈ e.payload, IsValue f.2 := by
    cases h with
    | record hnames hvalues => exact ⟨hnames, hvalues⟩
  rw [← record_eq]
  refine ⟨.record (nodup_record hnames m.stamp) fun f hf => ?_, _, rfl⟩
  rcases mem_record hf with ⟨s, hs⟩ | hf
  · exact hs ▸ .text s
  · exact hvalues f hf

theorem nestsWithin_recordOf {e : Event} {n : Nat} (h : NestsWithin n (.record e.payload))
    (m : Moment) : NestsWithin n (recordOf m e) := by
  obtain ⟨room, rfl, hfields⟩ := h.exists_of_record
  rw [← record_eq]
  refine .record fun f hf => ?_
  rcases mem_record hf with ⟨s, hs⟩ | hf
  · exact hs ▸ .text s
  · exact hfields f hf

theorem isReadable_recordOf {e : Event} (h : IsLegible e) (m : Moment) :
    IsReadable (recordOf m e) :=
  ⟨isRecord_recordOf h.isValue m, nestsWithin_recordOf h.nests m⟩

theorem IsReadable.isWritable {r : Json} (h : IsReadable r) : IsWritable writingLimit r :=
  Json.isWritable_of_nestsWithin h.isValue h.nests (by decide)

theorem recordsOf_append (ticket : String) (a b : List (Moment × Call)) :
    recordsOf ticket (a ++ b) = recordsOf ticket a ++ recordsOf ticket b :=
  List.filterMap_append

theorem recordsOf_log (m : Moment) (e : Event) :
    recordsOf e.ticket [(m, .log e)] = [recordOf m e] := by
  simp [recordsOf]

theorem recordsOf_read (ticket : String) (m : Moment) (t : String) :
    recordsOf ticket [(m, .read t)] = [] :=
  rfl

theorem recordsOf_other {ticket : String} {c : Moment × Call} (h : c.2.ticket ≠ ticket) :
    recordsOf ticket [c] = [] := by
  obtain ⟨m, call⟩ := c
  cases call with
  | log e => simp [recordsOf, show e.ticket ≠ ticket from h]
  | read t => rfl

theorem recordsOf_of_notMem {ticket : String} {calls : List (Moment × Call)}
    (h : ticket ∉ tickets calls) : recordsOf ticket calls = [] := by
  induction calls with
  | nil => rfl
  | cons c calls ih =>
    have hc : c.2.ticket ≠ ticket := fun hc => h (hc ▸ List.mem_cons_self)
    rw [← List.singleton_append, recordsOf_append, recordsOf_other hc,
      ih fun hmem => h (List.mem_cons_of_mem _ hmem)]
    rfl

variable {base : Path} {done : List (Moment × Call)} {w : World} {ticket name : String}

def keyOf (base : Path) (ticket : String) : Key :=
  ⟨base.text, ticket⟩

theorem keyOf_injective (base : Path) : Function.Injective (keyOf base) :=
  fun _ _ h => (Key.mk.inj h).2

theorem card_map_keyOf (base : Path) (tickets : List String) :
    (tickets.map (keyOf base)).toFinset.card = tickets.toFinset.card := by
  have himage : (tickets.map (keyOf base)).toFinset = tickets.toFinset.image (keyOf base) := by
    ext key
    simp
  rw [himage]
  exact Finset.card_image_of_injective _ (keyOf_injective base)

def entryOf (records : List Json) : Option Entry :=
  (bytesOf records).map .file

def bytesAfter (done : List (Moment × Call)) (m : Moment) (e : Event) : List UInt8 :=
  (bytesOf (recordsOf e.ticket done)).getD [] ++ encodeUtf8 ((recordOf m e).write ++ "\n").toList

/-- After a call, the keys in the cache are those of tickets that were asked for. -/
theorem mem_tickets_of_mem_use {names : NameCache} {c : Moment × Call} {size : Nat} {fresh : String}
    (h : ∀ ticket, keyOf base ticket ∈ keys names → ticket ∈ tickets done)
    (hmem : keyOf base ticket ∈ keys (use size (keyOf base c.2.ticket) fresh names).2) :
    ticket ∈ tickets (done ++ [c]) := by
  rw [tickets_concat, List.mem_append]
  rcases NameCache.mem_keys_of_mem_use hmem with heq | hmem
  · exact Or.inr (List.mem_singleton.2 (keyOf_injective base heq))
  · exact Or.inl (h ticket hmem)

def IsKept (base : Path) (done : List (Moment × Call)) (w : World) (ticket : String)
    (later : List String) : Prop :=
  ∃ name, IsNameOf name ticket ∧
    Remembers w.logNames (keyOf base ticket) name (later.map (keyOf base)) ∧
      w.files.entry? (base.names ++ [name]) = entryOf (recordsOf ticket done)

/-- A ticket stays kept when a call for another one uses a name and leaves its file alone. -/
theorem IsKept.other {c : Moment × Call} {rest : List String} {fresh : String} {files : Files}
    (h : IsKept base done w ticket rest) (hnodup : (keys w.logNames).Nodup)
    (hne : ticket ≠ c.2.ticket)
    (hfew : (rest ++ [c.2.ticket]).toFinset.card < w.logNamesKept)
    (hfiles : ∀ name, IsNameOf name ticket →
      files.entry? (base.names ++ [name]) = w.files.entry? (base.names ++ [name])) :
    IsKept base (done ++ [c])
      { w with
        files := files
        logNames := (use w.logNamesKept (keyOf base c.2.ticket) fresh w.logNames).2 }
      ticket (rest ++ [c.2.ticket]) := by
  obtain ⟨name, hname, hremembers, hentry⟩ := h
  refine ⟨name, hname, ?_, ?_⟩
  · have hmap : (rest ++ [c.2.ticket]).map (keyOf base) =
        rest.map (keyOf base) ++ [keyOf base c.2.ticket] := List.map_append
    rw [hmap]
    refine hremembers.use_other hnodup (fun heq => hne (keyOf_injective base heq)) ?_
    rw [← hmap, card_map_keyOf]
    exact hfew
  · rw [hfiles name hname, recordsOf_append, recordsOf_other hne.symm, List.append_nil]
    exact hentry

/-- The names and the files that calls left behind. -/
structure Keeps (base : Path) (done : List (Moment × Call)) (w : World) : Prop where
  directory : w.files.HasDirectory base
  nodup : (keys w.logNames).Nodup
  seen : ∀ ticket, keyOf base ticket ∈ keys w.logNames → ticket ∈ tickets done
  unseen : ∀ ticket, ticket ∉ tickets done → ∀ name, IsNameOf name ticket →
    w.files.entry? (base.names ++ [name]) = none
  kept : ∀ before ticket later, tickets done = before ++ ticket :: later → ticket ∉ later →
    later.toFinset.card < w.logNamesKept → IsKept base done w ticket later

theorem exists_last {α : Type} {a : α} {l : List α} (h : a ∈ l) :
    ∃ before later, l = before ++ a :: later ∧ a ∉ later := by
  obtain ⟨later, before, hrev, hlater⟩ := List.eq_append_cons_of_mem (List.mem_reverse.2 h)
  refine ⟨before.reverse, later.reverse, ?_, mt List.mem_reverse.1 hlater⟩
  rw [← List.reverse_reverse l, hrev]
  simp

namespace Keeps

/-- The name that a call uses is one of its ticket, and its file has the records of the ticket. -/
theorem named (h : Keeps base done w) (hknown : StayKnown w.logNamesKept (tickets done ++ [ticket]))
    {fresh : String} (hfresh : IsNameOf fresh ticket) :
    let used := use w.logNamesKept (keyOf base ticket) fresh w.logNames
    IsNameOf used.1 ticket ∧ (0 < w.logNamesKept → Remembers used.2 (keyOf base ticket) used.1 []) ∧
      w.files.entry? (base.names ++ [used.1]) = entryOf (recordsOf ticket done) := by
  intro used
  by_cases hseen : ticket ∈ tickets done
  · obtain ⟨before, later, hdone, hlater⟩ := exists_last hseen
    have hfew : later.toFinset.card < w.logNamesKept :=
      hknown before ticket later [] (by rw [hdone, List.append_assoc]; rfl) hlater
    obtain ⟨name, hname, hremembers, hentry⟩ := h.kept before ticket later hdone hlater hfew
    obtain ⟨hused, hlast⟩ : used.1 = name ∧ Remembers used.2 (keyOf base ticket) name [] :=
      hremembers.use_self h.nodup
    refine ⟨hused.symm ▸ hname, fun _ => hused.symm ▸ hlast, hused.symm ▸ hentry⟩
  · have hkey : keyOf base ticket ∉ keys w.logNames := fun hmem => hseen (h.seen ticket hmem)
    have hused : used.1 = fresh := congrArg Prod.fst (NameCache.use_of_notMem hkey)
    refine ⟨hused.symm ▸ hfresh, fun hpos => ?_, ?_⟩
    · exact hused.symm ▸ (NameCache.remembers_use_fresh hkey hpos).2
    · rw [h.unseen ticket hseen used.1 (hused.symm ▸ hfresh), recordsOf_of_notMem hseen]
      rfl

/-- A call that leaves the records of its ticket in its file and other files alone. -/
theorem step (h : Keeps base done w) {c : Moment × Call}
    (hknown : StayKnown w.logNamesKept (tickets done ++ [c.2.ticket])) {fresh : String}
    (hfresh : IsNameOf fresh c.2.ticket) {files : Files} (hdirectory : files.HasDirectory base)
    (hown : files.entry? (base.names ++
      [(use w.logNamesKept (keyOf base c.2.ticket) fresh w.logNames).1]) =
        entryOf (recordsOf c.2.ticket (done ++ [c])))
    (hother : ∀ ticket, ticket ≠ c.2.ticket → ∀ name, IsNameOf name ticket →
      files.entry? (base.names ++ [name]) = w.files.entry? (base.names ++ [name])) :
    Keeps base (done ++ [c])
      { w with
        files := files
        logNames := (use w.logNamesKept (keyOf base c.2.ticket) fresh w.logNames).2 } where
  directory := hdirectory
  nodup := NameCache.nodup_use h.nodup
  seen := fun _ => mem_tickets_of_mem_use h.seen
  unseen := by
    intro ticket hmem name hname
    rw [tickets_concat, List.mem_append, not_or] at hmem
    rw [hother ticket (fun heq => hmem.2 (List.mem_singleton.2 heq)) name hname]
    exact h.unseen ticket hmem.1 name hname
  kept := by
    intro before ticket later hdone hlater hfew
    rw [tickets_concat] at hdone
    rcases List.eq_nil_or_concat' later with rfl | ⟨rest, last, rfl⟩
    · obtain ⟨hbefore, hticket⟩ := List.append_inj' hdone rfl
      obtain rfl : c.2.ticket = ticket := (List.cons.inj hticket).1
      obtain ⟨hname, hlast, -⟩ := h.named hknown hfresh
      exact ⟨_, hname, hlast (Nat.pos_of_ne_zero fun hzero => by simp [hzero] at hfew), hown⟩
    · rw [← List.cons_append, ← List.append_assoc] at hdone
      obtain ⟨hbefore, hticket⟩ := List.append_inj' hdone rfl
      obtain rfl : c.2.ticket = last := (List.cons.inj hticket).1
      have hne : ticket ≠ c.2.ticket := fun heq =>
        hlater (heq ▸ List.mem_append_right rest List.mem_cons_self)
      have hsub : rest.toFinset.card ≤ (rest ++ [c.2.ticket]).toFinset.card :=
        Finset.card_le_card fun t ht => by
          rw [List.mem_toFinset] at ht ⊢
          exact List.mem_append_left _ ht
      have hkept := h.kept before ticket rest hbefore
        (fun hmem => hlater (List.mem_append_left _ hmem)) (Nat.lt_of_le_of_lt hsub hfew)
      exact hkept.other h.nodup hne hfew (hother ticket hne)

theorem step_read (h : Keeps base done w) (m : Moment)
    (hknown : StayKnown w.logNamesKept (tickets done ++ [ticket])) {fresh : String}
    (hfresh : IsNameOf fresh ticket) :
    Keeps base (done ++ [(m, .read ticket)])
      { w with logNames := (use w.logNamesKept (keyOf base ticket) fresh w.logNames).2 } := by
  have hown := (h.named hknown hfresh).2.2
  rw [← List.append_nil (recordsOf ticket done), ← recordsOf_read ticket m ticket,
    ← recordsOf_append] at hown
  exact h.step (c := (m, .read ticket)) hknown hfresh h.directory hown fun _ _ _ _ => rfl

theorem step_log (h : Keeps base done w) (m : Moment) {e : Event}
    (hknown : StayKnown w.logNamesKept (tickets done ++ [e.ticket])) {fresh : String}
    (hfresh : IsNameOf fresh e.ticket) :
    Keeps base (done ++ [(m, .log e)])
      { w with
        files := w.files.put
          (base.names ++ [(use w.logNamesKept (keyOf base e.ticket) fresh w.logNames).1])
          (.file (bytesAfter done m e))
        logNames := (use w.logNamesKept (keyOf base e.ticket) fresh w.logNames).2 } := by
  obtain ⟨hname, -, -⟩ := h.named hknown hfresh
  have hown : some (Entry.file (bytesAfter done m e)) =
      entryOf (recordsOf e.ticket (done ++ [(m, .log e)])) := by
    rw [recordsOf_append, recordsOf_log, entryOf, bytesOf_append]
    rfl
  refine h.step (c := (m, .log e)) hknown hfresh (h.directory.put _ _) ?_ ?_
  · exact (Files.entry?_put _ (by simp) _ _).trans ((if_pos rfl).trans hown)
  · intro ticket hne name hother
    refine (Files.entry?_put _ (by simp) _ _).trans (if_neg fun heq => ?_)
    rw [← List.singleton_inj.1 (List.append_cancel_left heq)] at hname
    exact hne (hother.ticket_eq hname)

end Keeps

namespace Journal

variable {j : Journal}

/-- A journal has its files in a directory whose path leaves room for their names. -/
structure IsAt (j : Journal) (base : Path) (w : World) : Prop where
  resolved : ∃ expanded, World.expandHome j.base w = (.ok expanded, w) ∧
    Path.resolve w.cwd expanded = base
  room : base.text.utf8ByteSize + 226 ≤ Files.pathLimit
  notMem_nul : '\x00' ∉ base.text.toList

theorem IsAt.congr {w' : World} (h : j.IsAt base w) (hcwd : w'.cwd = w.cwd)
    (henvironment : w'.environment = w.environment) (hhomes : w'.homes = w.homes) :
    j.IsAt base w' := by
  obtain ⟨expanded, hexpand, hresolve⟩ := h.resolved
  exact ⟨⟨expanded, World.expandHome_congr hexpand henvironment hhomes, hcwd ▸ hresolve⟩, h.room,
    h.notMem_nul⟩

theorem IsAt.fits (h : j.IsAt base w) (habsolute : base.isAbsolute = true)
    (hname : IsNameOf name ticket) (hticket : IsTicket ticket) : Files.Fits base name := by
  have hsize := hname.utf8ByteSize_le hticket
  have hroom := h.room
  refine ⟨hname.ne_dots, Nat.le_trans hsize (by decide), ?_⟩
  obtain ⟨sep, hsep, htext⟩ := Files.exists_text_child habsolute name
  have hone : sep.utf8ByteSize ≤ 1 := by
    rcases hsep with rfl | rfl <;> decide
  rw [htext, String.utf8ByteSize_append, String.utf8ByteSize_append]
  omega

theorem IsAt.notMem_nul_child (h : j.IsAt base w) (habsolute : base.isAbsolute = true)
    (hname : IsNameOf name ticket) (hticket : IsTicket ticket) :
    '\x00' ∉ (Files.child base name).text.toList := by
  obtain ⟨sep, hsep, htext⟩ := Files.exists_text_child habsolute name
  have hnone : '\x00' ∉ sep.toList := by
    rcases hsep with rfl | rfl <;> decide
  rw [htext, String.toList_append, String.toList_append]
  simp only [List.mem_append, not_or]
  exact ⟨⟨h.notMem_nul, hnone⟩, hname.notMem_nul hticket⟩

/-- Below a directory that can be told, the file of a ticket has the name that a use of its key
gives, once the directory is made for a new key. -/
theorem fileOf_eq {expanded : Path} (hexpand : World.expandHome j.base w = (.ok expanded, w))
    (hresolve : Path.resolve w.cwd expanded = base) (ticket : String) (stamp : Option String) :
    j.fileOf ticket stamp w =
      match if keyOf base ticket ∈ keys w.logNames then .ok w.files
        else w.files.makeDirectories w.cwd base with
      | .error fault => (.error (.system fault base.text), w)
      | .ok files =>
        let used := use w.logNamesKept (keyOf base ticket) (fileName w.now stamp ticket) w.logNames
        (.ok (Files.child base used.1), { w with files, logNames := used.2 }) := by
  rw [fileOf, bind_of_ok hexpand, bind_of_ok (get_run w)]
  dsimp only
  rw [hresolve, bind_of_ok (get_run w)]
  by_cases hk : keyOf base ticket ∈ keys w.logNames
  · have hknows : w.logNames.knows ⟨base.text, ticket⟩ = true := NameCache.knows_iff.2 hk
    rw [if_pos hknows, if_pos hk]
    rfl
  · have hknows : ¬ w.logNames.knows ⟨base.text, ticket⟩ = true := mt NameCache.knows_iff.1 hk
    rw [if_neg hknows, if_neg hk]
    cases hmake : w.files.makeDirectories w.cwd base with
    | ok files =>
      rw [bind_of_ok (World.makeDirectories_of_ok hmake)]
      rfl
    | error fault => exact bind_of_error (World.makeDirectories_of_error hmake)

theorem fileOf_of_resolved {expanded : Path}
    (hexpand : World.expandHome j.base w = (.ok expanded, w))
    (hresolve : Path.resolve w.cwd expanded = base) (hdirectory : w.files.HasDirectory base)
    (hsize : base.text.utf8ByteSize ≤ Files.pathLimit) (ticket : String) (stamp : Option String) :
    j.fileOf ticket stamp w =
      (.ok (Files.child base (use w.logNamesKept (keyOf base ticket)
          (fileName w.now stamp ticket) w.logNames).1),
        { w with logNames := (use w.logNamesKept (keyOf base ticket)
          (fileName w.now stamp ticket) w.logNames).2 }) := by
  rw [fileOf_eq hexpand hresolve, hdirectory.makeDirectories hsize, ite_self]

theorem fileOf_run (h : j.IsAt base w) (hdirectory : w.files.HasDirectory base) (ticket : String)
    (stamp : Option String) :
    j.fileOf ticket stamp w =
      (.ok (Files.child base (use w.logNamesKept (keyOf base ticket)
          (fileName w.now stamp ticket) w.logNames).1),
        { w with logNames := (use w.logNamesKept (keyOf base ticket)
          (fileName w.now stamp ticket) w.logNames).2 }) := by
  obtain ⟨expanded, hexpand, hresolve⟩ := h.resolved
  exact fileOf_of_resolved hexpand hresolve hdirectory
    (Nat.le_trans (Nat.le_add_right _ _) h.room) ticket stamp

/-- No event is added in a directory whose path leaves too little room for the name of the file. -/
theorem append_of_far {expanded : Path} (hexpand : World.expandHome j.base w = (.ok expanded, w))
    (hresolve : Path.resolve w.cwd expanded = base) (hdirectory : w.files.HasDirectory base)
    (hsize : base.text.utf8ByteSize ≤ Files.pathLimit) {e : Event} {used : String × NameCache}
    (hused : use w.logNamesKept (keyOf base e.ticket)
      (fileName w.now (some w.now.stamp) e.ticket) w.logNames = used)
    (hfar : Files.pathLimit < (Files.child base used.1).text.utf8ByteSize) :
    j.append e w = (.error (.system .nameTooLong (Files.child base used.1).text),
      { w with logNames := used.2 }) := by
  subst hused
  have hfile (s : String) (logNames : NameCache) :=
    World.appendText_of_error (w := { w with logNames }) (s := s)
      (Files.update_of_far hfar w.cwd _)
  rw [append, bind_of_ok (get_run w),
    bind_of_ok (fileOf_of_resolved hexpand hresolve hdirectory hsize e.ticket _)]
  cases ((Json.record (record e w.now.stamp)).draft writingLimit).error with
  | none => exact hfile _ _
  | some error => exact bind_of_error (hfile _ _)

def appended (r : Json) : Except Failure Unit :=
  match (r.draft writingLimit).error with
  | none => .ok ()
  | some error => .error (writeFailure error)

def lineOf (r : Json) : String :=
  match (r.draft writingLimit).error with
  | none => String.ofList (r.draft writingLimit).text ++ "\n"
  | some _ => String.ofList (r.draft writingLimit).text

theorem isOk_appended_iff {r : Json} : appended r = .ok () ↔ IsWritable writingLimit r := by
  rw [← Json.error_draft_eq_none_iff, appended]
  cases (r.draft writingLimit).error <;> simp

theorem lineOf_of_isWritable {r : Json} (h : IsWritable writingLimit r) :
    lineOf r = r.write ++ "\n" := by
  rw [lineOf, Json.draft_eq_whole h]
  rfl

/-- Adding an event, where the file that it goes to has these bytes or is not there. -/
theorem append_of_entry (h : j.IsAt base w) (hdirectory : w.files.HasDirectory base) {e : Event}
    {old : Option (List UInt8)} {used : String × NameCache}
    (hused : use w.logNamesKept (keyOf base e.ticket)
      (fileName w.now (some w.now.stamp) e.ticket) w.logNames = used)
    (hname : IsNameOf used.1 ticket) (hticket : IsTicket ticket)
    (hentry : w.files.entry? (base.names ++ [used.1]) = old.map .file) :
    j.append e w = (appended (recordOf w.now e),
      { w with
        files := w.files.put (base.names ++ [used.1])
          (.file (old.getD [] ++ encodeUtf8 (lineOf (recordOf w.now e)).toList))
        logNames := used.2 }) := by
  subst hused
  have hfits := h.fits hdirectory.absolute hname hticket
  have hfile (s : String) (logNames : NameCache) :=
    World.appendText_of_ok (w := { w with logNames }) (s := s)
      (hdirectory.update_child hfits hentry w.cwd _)
  rw [append, bind_of_ok (get_run w),
    bind_of_ok (fileOf_run h hdirectory e.ticket (some w.now.stamp)), record_eq]
  rw [appended, lineOf]
  cases ((recordOf w.now e).draft writingLimit).error with
  | none => exact hfile _ _
  | some error => exact bind_of_ok (hfile _ _)

/-- An event whose record is written to its end is added on a line of its own. -/
theorem append_of_isWritable (h : j.IsAt base w) (hdirectory : w.files.HasDirectory base)
    {e : Event} {old : Option (List UInt8)} {used : String × NameCache}
    (hused : use w.logNamesKept (keyOf base e.ticket)
      (fileName w.now (some w.now.stamp) e.ticket) w.logNames = used)
    (hname : IsNameOf used.1 ticket) (hticket : IsTicket ticket)
    (hentry : w.files.entry? (base.names ++ [used.1]) = old.map .file)
    (hwritable : IsWritable writingLimit (recordOf w.now e)) :
    j.append e w = (.ok (),
      { w with
        files := w.files.put (base.names ++ [used.1])
          (.file (old.getD [] ++ encodeUtf8 ((recordOf w.now e).write ++ "\n").toList))
        logNames := used.2 }) := by
  rw [append_of_entry h hdirectory hused hname hticket hentry,
    isOk_appended_iff.2 hwritable, lineOf_of_isWritable hwritable]

theorem append_run (h : j.IsAt base w) (hkeeps : Keeps base done w) (hnow : w.now.IsShown)
    {e : Event} (hticket : IsTicket e.ticket)
    (hknown : StayKnown w.logNamesKept (tickets done ++ [e.ticket])) :
    ∃ fresh, IsNameOf fresh e.ticket ∧ j.append e w = (appended (recordOf w.now e),
      { w with
        files := w.files.put
          (base.names ++ [(use w.logNamesKept (keyOf base e.ticket) fresh w.logNames).1])
          (.file ((bytesOf (recordsOf e.ticket done)).getD [] ++
            encodeUtf8 (lineOf (recordOf w.now e)).toList))
        logNames := (use w.logNamesKept (keyOf base e.ticket) fresh w.logNames).2 }) := by
  have hfresh := isNameOf_fileName hnow (some w.now.stamp) hticket
  obtain ⟨hname, -, hentry⟩ := hkeeps.named hknown hfresh
  exact ⟨_, hfresh, append_of_entry h hkeeps.directory rfl hname hticket hentry⟩

theorem append_keeps (h : j.IsAt base w) (hkeeps : Keeps base done w) (hnow : w.now.IsShown)
    {e : Event} (hticket : IsTicket e.ticket)
    (hknown : StayKnown w.logNamesKept (tickets done ++ [e.ticket]))
    (hwritable : IsWritable writingLimit (recordOf w.now e)) :
    ∃ w', j.append e w = (.ok (), w') ∧ Keeps base (done ++ [(w.now, .log e)]) w' ∧
      j.IsAt base w' ∧ w'.logNamesKept = w.logNamesKept := by
  obtain ⟨fresh, hfresh, hrun⟩ := append_run h hkeeps hnow hticket hknown
  rw [isOk_appended_iff.2 hwritable, lineOf_of_isWritable hwritable] at hrun
  exact ⟨_, hrun, hkeeps.step_log w.now hknown hfresh, h.congr rfl rfl rfl, rfl⟩

theorem readText_linesOf {records : List Json} (hrecords : ∀ r ∈ records, IsRecord r) {p : Path}
    (hread : w.files.read w.cwd p = .ok (encodeUtf8 (linesOf records))) :
    World.readText false p w = (.ok (String.ofList (linesOf records)), w) := by
  obtain ⟨cs, hdecode, htext⟩ := Option.map_eq_some_iff.1 (text_bytesOf hrecords)
  rw [World.readText_run, hread]
  dsimp only
  rw [if_neg Bool.false_ne_true, hdecode]
  dsimp only
  rw [htext]

/-- Reading a ticket, where its file has these records on its lines. -/
theorem records_of_entry (h : j.IsAt base w) (hdirectory : w.files.HasDirectory base)
    {asked : String} {records : List Json} {used : String × NameCache}
    (hused : use w.logNamesKept (keyOf base asked) (fileName w.now none asked) w.logNames = used)
    (hname : IsNameOf used.1 ticket) (hticket : IsTicket ticket)
    (hentry : w.files.entry? (base.names ++ [used.1]) = entryOf records)
    (hrecords : ∀ r ∈ records, IsRecord r) :
    j.records asked w = (records.mapM fun r => readRecord r.writeChars,
      { w with logNames := used.2 }) := by
  have habsolute := hdirectory.absolute
  have hfits := h.fits habsolute hname hticket
  have hexists := hdirectory.exists?_child hfits
    (h.notMem_nul_child habsolute hname hticket) w.cwd
  rw [Journal.records, bind_of_ok (fileOf_run h hdirectory asked none), hused]
  have hthere := World.pathExists_run (Files.child base used.1) { w with logNames := used.2 }
  dsimp only at hthere
  rw [hexists, hentry] at hthere
  rw [bind_of_ok hthere]
  by_cases hnone : records = []
  · rw [entryOf, bytesOf, if_pos hnone, hnone]
    rfl
  · rw [entryOf, bytesOf, if_neg hnone] at hentry ⊢
    have hread := hdirectory.read_child hfits hentry w.cwd
    have htext := readText_linesOf (w := { w with logNames := used.2 }) hrecords hread
    dsimp only [Option.map_some, Option.isSome_some]
    rw [if_pos rfl, bind_of_ok htext]
    rw [String.toList_ofList, mapM_lines hrecords]
    rfl

theorem records_keeps (h : j.IsAt base w) (hkeeps : Keeps base done w) (hnow : w.now.IsShown)
    (hticket : IsTicket ticket) (hknown : StayKnown w.logNamesKept (tickets done ++ [ticket]))
    (hrecords : ∀ r ∈ recordsOf ticket done, IsRecord r) :
    ∃ w', j.records ticket w =
        ((recordsOf ticket done).mapM fun r => readRecord r.writeChars, w') ∧
      Keeps base (done ++ [(w.now, .read ticket)]) w' ∧ j.IsAt base w' ∧
        w'.logNamesKept = w.logNamesKept := by
  have hfresh := isNameOf_fileName hnow none hticket
  obtain ⟨hname, -, hentry⟩ := hkeeps.named hknown hfresh
  have hrun := records_of_entry h hkeeps.directory rfl hname hticket hentry hrecords
  exact ⟨_, hrun, hkeeps.step_read w.now hknown hfresh, h.congr rfl rfl rfl, rfl⟩

theorem answer_run (h : j.IsAt base w) (hkeeps : Keeps base done w) (hnow : w.now.IsShown)
    {call : Call} (hticket : IsTicket call.ticket) (hlegible : ∀ e, call = .log e → IsLegible e)
    (hknown : StayKnown w.logNamesKept (tickets done ++ [call.ticket]))
    (hrecords : ∀ r ∈ recordsOf call.ticket done, IsReadable r) :
    ∃ w', j.answer call w = (.ok (replyTo done call), w') ∧
      Keeps base (done ++ [(w.now, call)]) w' ∧ j.IsAt base w' ∧
        w'.logNamesKept = w.logNamesKept := by
  cases call with
  | log e =>
    have hwritable := (isReadable_recordOf (hlegible e rfl) w.now).isWritable
    obtain ⟨w', hrun, hafter⟩ := append_keeps h hkeeps hnow hticket hknown hwritable
    exact ⟨w', answer_log hrun, hafter⟩
  | read ticket =>
    obtain ⟨w', hrun, hafter⟩ := records_keeps h hkeeps hnow hticket hknown fun r hr =>
      (hrecords r hr).toIsRecord
    rw [mapM_readRecord hrecords] at hrun
    exact ⟨w', answer_read hrun, hafter⟩

structure AreProper (calls : List (Moment × Call)) : Prop where
  shown : ∀ c ∈ calls, c.1.IsShown
  tickets : ∀ c ∈ calls, IsTicket c.2.ticket
  payloads : ∀ m e, (m, Call.log e) ∈ calls → IsLegible e

theorem isReadable_of_mem_recordsOf {calls : List (Moment × Call)} (h : AreProper calls) :
    ∀ r ∈ recordsOf ticket calls, IsReadable r := by
  intro r hr
  obtain ⟨⟨m, call⟩, hc, hrecord⟩ := List.mem_filterMap.1 hr
  cases call with
  | log e =>
    dsimp only at hrecord
    split at hrecord
    · cases hrecord
      exact isReadable_recordOf (h.payloads m e hc) m
    · cases hrecord
  | read t => cases hrecord

theorem keeps_now (h : Keeps base done w) (m : Moment) : Keeps base done { w with now := m } :=
  ⟨h.directory, h.nodup, h.seen, h.unseen, h.kept⟩

theorem answers_run {calls : List (Moment × Call)} (h : j.IsAt base w)
    (hkeeps : Keeps base done w) (hproper : AreProper (done ++ calls))
    (hknown : StayKnown w.logNamesKept (tickets (done ++ calls))) :
    (j.answers calls w).1 = .ok (replies done calls) := by
  induction calls generalizing done w with
  | nil => rfl
  | cons c calls ih =>
    have hassoc : done ++ c :: calls = done ++ [c] ++ calls := by simp
    have hmem : c ∈ done ++ c :: calls := List.mem_append_right _ List.mem_cons_self
    have hdone : AreProper done :=
      ⟨fun c hc => hproper.shown c (List.mem_append_left _ hc),
        fun c hc => hproper.tickets c (List.mem_append_left _ hc),
        fun m e hc => hproper.payloads m e (List.mem_append_left _ hc)⟩
    have hstep : StayKnown w.logNamesKept (tickets done ++ [c.2.ticket]) := by
      rw [hassoc, tickets_append, tickets_concat] at hknown
      exact hknown.of_append
    obtain ⟨w', hrun, hkeeps', hat', hkept⟩ := answer_run (w := { w with now := c.1 })
      (h.congr rfl rfl rfl) (keeps_now hkeeps c.1) (hproper.shown c hmem)
      (hproper.tickets c hmem) (fun e he => hproper.payloads c.1 e (he ▸ hmem)) hstep
      (isReadable_of_mem_recordsOf hdone)
    have hknown' : StayKnown w'.logNamesKept (tickets (done ++ [c] ++ calls)) := by
      rw [hkept, ← hassoc]
      exact hknown
    rw [answers_cons hrun, ih hat' hkeeps' (hassoc ▸ hproper) hknown']
    rfl

end Journal

end TableTalk.Log

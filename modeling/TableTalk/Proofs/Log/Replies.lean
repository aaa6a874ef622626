import TableTalk.Proofs.Log.Journal

/-!
# The journal reads back what was written

Events of any number of tickets are added and read in any order. As long as no ticket is forgotten
between two of its calls, each reading gives the records of the events of its ticket so far.

What an event carries must have no number too long and no list or record too deep, and the path of
the directory must leave room for the names of files. Beyond any of these bounds adding or reading
fails.
-/

namespace TableTalk.Log.Journal

open TableTalk.Action Text
open Json (IsValue IsWritable NestsWithin nestingLimit writingLimit)
open NameCache (Remembers keys use)

variable {j : Journal} {base : Path} {w : World}

structure StartsEmpty (base : Path) (w : World) : Prop where
  directory : w.files.HasDirectory base
  empty : ∀ name, w.files.entry? (base.names ++ [name]) = none
  nodup : (keys w.logNames).Nodup
  unknown : ∀ ticket, keyOf base ticket ∉ keys w.logNames

theorem StartsEmpty.keeps (h : StartsEmpty base w) : Keeps base [] w where
  directory := h.directory
  nodup := h.nodup
  seen := fun ticket hmem => absurd hmem (h.unknown ticket)
  unseen := fun _ _ name _ => h.empty name
  kept := by
    intro before ticket later hdone
    cases before <;> cases hdone

/-- A journal that starts empty answers every reading with the records of the events that were
logged for the ticket so far, whatever was asked for other tickets in between and however far the
clock went on, as long as no ticket is forgotten between two of its calls. -/
theorem answers_eq_replies {calls : List (Moment × Call)} (hat : j.IsAt base w)
    (hempty : StartsEmpty base w) (hclock : ∀ c ∈ calls, c.1.IsShown)
    (htickets : ∀ c ∈ calls, IsTicket c.2.ticket)
    (hpayloads : ∀ m e, (m, Call.log e) ∈ calls → IsLegible e)
    (hknown : StayKnown w.logNamesKept (tickets calls)) :
    (j.answers calls w).1 = .ok (replies [] calls) :=
  answers_run hat hempty.keeps ⟨hclock, htickets, hpayloads⟩ hknown

def logsJournal : Journal :=
  ⟨⟨"/", ["logs"]⟩⟩

def logsWorld : World :=
  { World.bare with files := ⟨[(["logs"], .directory)]⟩ }

theorem isAt_logsWorld : logsJournal.IsAt ⟨"/", ["logs"]⟩ logsWorld :=
  ⟨⟨_, rfl, rfl⟩, by decide, by decide⟩

theorem startsEmpty_logsWorld : StartsEmpty ⟨"/", ["logs"]⟩ logsWorld := by
  refine ⟨⟨by decide, ⟨by decide, ?_⟩⟩, ?_, by decide, ?_⟩
  · rintro (_ | n)
    · rfl
    · change logsWorld.files.entry? ("logs" :: [].take n) = _
      rw [List.take_nil]
      rfl
  · intro name
    rfl
  · intro ticket
    exact List.not_mem_nil

theorem isTicket_api : IsTicket "api-1" :=
  ⟨List.all_eq_true.1 (by decide), by decide, by decide⟩

def logsCalls : List (Moment × Call) :=
  [(⟨⟨2024, 1, 1⟩, 9, 0, 0, 0, none⟩, .read "api-1"),
    (⟨⟨2024, 1, 1⟩, 9, 0, 0, 5000, none⟩, .log ⟨"api-1", "sql_executed",
      [("rows", .int 2), ("event", .text "hidden"), ("note", .null),
        ("cells", .list [.list [.text "é"]])]⟩),
    (⟨⟨2024, 1, 1⟩, 9, 30, 0, 0, none⟩, .log ⟨"api-2", "question_received", []⟩),
    (⟨⟨2024, 1, 1⟩, 10, 0, 0, 0, none⟩, .read "api-1")]

theorem answers_eq_replies_logs : (logsJournal.answers logsCalls logsWorld).1 =
    .ok [some [], none, none, some [.record [("ticket_id", .text "api-1"),
      ("event", .text "sql_executed"), ("timestamp", .text "2024-01-01T09:00:00.005Z"),
      ("rows", .int 2), ("cells", .list [.list [.text "é"]])]]] := by
  have hclock : ∀ c ∈ logsCalls, c.1.IsShown := by decide
  have htwo : IsTicket "api-2" := ⟨List.all_eq_true.1 (by decide), by decide, by decide⟩
  have htickets : ∀ c ∈ logsCalls, IsTicket c.2.ticket := by
    simp only [logsCalls, List.forall_mem_cons, List.not_mem_nil, false_implies, implies_true,
      and_true]
    exact ⟨isTicket_api, isTicket_api, htwo, isTicket_api⟩
  have hpayloads : ∀ m e, (m, Call.log e) ∈ logsCalls → IsLegible e := by
    intro m e hc
    simp only [logsCalls, List.mem_cons, List.not_mem_nil, or_false, Prod.mk.injEq, reduceCtorEq,
      and_false, false_or, Call.log.injEq] at hc
    rcases hc with ⟨-, rfl⟩ | ⟨-, rfl⟩
    · have htwo : IsValue (.int 2) :=
        .int (Nat.lt_of_lt_of_le (by decide) (Nat.le_self_pow (by decide) 10))
      refine ⟨.record (by decide) ?_, .record ?_⟩ <;>
        simp only [List.forall_mem_cons, List.not_mem_nil, false_implies, implies_true, and_true]
      · exact ⟨htwo, .text _, .null, .list fun j hj => List.mem_singleton.1 hj ▸
          .list fun j hj => List.mem_singleton.1 hj ▸ .text _⟩
      · exact ⟨.int 2, .text _, .null, .list fun j hj => List.mem_singleton.1 hj ▸
          .list fun j hj => List.mem_singleton.1 hj ▸ .text _⟩
    · exact isLegible_nil _ _
  have hrun := answers_eq_replies isAt_logsWorld startsEmpty_logsWorld hclock htickets hpayloads
    (stayKnown_of_length (by decide))
  have hstamp : (⟨⟨2024, 1, 1⟩, 9, 0, 0, 5000, none⟩ : Moment).stamp =
      "2024-01-01T09:00:00.005Z" := by decide
  rw [hrun]
  simp [logsCalls, replies, replyTo, recordsOf, recordOf, isNull, hstamp]

def nine : Moment :=
  ⟨⟨2024, 1, 1⟩, 9, 0, 0, 0, none⟩

/-- An event with a number of one digit too many. -/
def hugeEvent : Event :=
  ⟨"api-1", "sql_executed", [("rows", .int (10 ^ digitLimit))]⟩

/-- An event whose record is nested one deeper than is read, though not too deep to be written. -/
def deepEvent : Event :=
  ⟨"api-1", "sql_executed", [("tree", Json.nestedList (nestingLimit - 1))]⟩

theorem appended_hugeEvent :
    appended (recordOf nine hugeEvent) = .error (.hugeNumeral (digitLimit + 1)) := by
  have hrecord : recordOf nine hugeEvent = .record [("ticket_id", .text "api-1"),
      ("event", .text "sql_executed"), ("timestamp", .text nine.stamp),
      ("rows", .int (10 ^ digitLimit))] := rfl
  have herror : ((recordOf nine hugeEvent).draft writingLimit).error =
      some (.hugeInteger (digitLimit + 1)) := by
    rw [hrecord, writingLimit, Json.draft]
    simp only [Json.draftFields, Json.draft, Json.draftInt_pow (Nat.le_refl digitLimit)]
    rfl
  rw [appended, herror]
  rfl

theorem isTooDeep_deepEvent : Json.isTooDeep (recordOf nine deepEvent).writeChars = true := by
  have hrecord : recordOf nine deepEvent = .record [("ticket_id", .text "api-1"),
      ("event", .text "sql_executed"), ("timestamp", .text nine.stamp),
      ("tree", Json.nestedList (nestingLimit - 1))] := rfl
  have hinner := Json.le_deepest_nestedList (nestingLimit - 1) 1 ['}']
  have hchars : Json.deepest .outside 0 (recordOf nine deepEvent).writeChars =
      Json.deepest .outside 1 ((Json.nestedList (nestingLimit - 1)).writeChars ++ ['}']) := by
    rw [hrecord, ← List.append_nil (Json.writeChars _), Json.writeChars_record,
      Json.writeFields_cons (by simp), Json.writeFields_cons (by simp),
      Json.writeFields_cons (by simp), Json.writeFields_single]
    have hopen (cs : List Char) :
        Json.deepest .outside 0 ('\x7b' :: cs) = Json.deepest .outside 1 cs := rfl
    rw [hopen]
    simp only [Json.writeChars, List.append_assoc, List.cons_append, Json.deepest_writeText,
      Json.deepest_colon, Json.deepest_comma]
  refine decide_eq_true ?_
  rw [hchars]
  exact Nat.lt_of_lt_of_le (by decide) hinner

/-- An event that cannot be written to its end is not answered. -/
theorem answers_of_unwritable (hat : j.IsAt base w) (hempty : StartsEmpty base w) {m : Moment}
    (hm : m.IsShown) {e : Event} (hticket : IsTicket e.ticket) (hsize : 1 ≤ w.logNamesKept)
    {f : Failure} (hfails : appended (recordOf m e) = .error f) (later : List (Moment × Call)) :
    (j.answers ((m, .log e) :: later) w).1 = .error f := by
  have hknown : StayKnown w.logNamesKept [e.ticket] := stayKnown_of_length hsize
  obtain ⟨fresh, -, hlog⟩ := append_run (w := { w with now := m }) (hat.congr rfl rfl rfl)
    (keeps_now hempty.keeps m) hm hticket hknown
  dsimp only at hlog
  rw [hfails] at hlog
  exact answers_cons_error (c := (m, .log e)) (answer_log hlog)

/-- An event that is written to its end and nested too deeply is not read. -/
theorem answers_of_unreadable (hat : j.IsAt base w) (hempty : StartsEmpty base w) {m : Moment}
    (hm : m.IsShown) {e : Event} (hticket : IsTicket e.ticket) (hsize : 2 ≤ w.logNamesKept)
    (hrecord : IsRecord (recordOf m e)) (hwritable : IsWritable writingLimit (recordOf m e))
    (hdeep : Json.isTooDeep (recordOf m e).writeChars = true) :
    (j.answers [(m, .log e), (m, .read e.ticket)] w).1 = .error .tooDeep := by
  have hlogged : StayKnown w.logNamesKept [e.ticket] := stayKnown_of_length (Nat.le_of_lt hsize)
  have hread : StayKnown w.logNamesKept [e.ticket, e.ticket] := stayKnown_of_length hsize
  obtain ⟨w₁, hlog, hkeeps, hat₁, hkept⟩ := append_keeps (w := { w with now := m })
    (hat.congr rfl rfl rfl) (keeps_now hempty.keeps m) hm hticket hlogged hwritable
  dsimp only at hkeeps hkept
  rw [List.nil_append] at hkeeps
  have hrecords := recordsOf_log m e
  obtain ⟨w₂, hrun, -⟩ := records_keeps (w := { w₁ with now := m }) (hat₁.congr rfl rfl rfl)
    (keeps_now hkeeps m) hm hticket (hkept ▸ hread)
    (hrecords ▸ List.forall_mem_singleton.2 hrecord)
  have hfails : (recordsOf e.ticket [(m, .log e)]).mapM (fun r => readRecord r.writeChars) =
      .error .tooDeep := by
    rw [hrecords, List.mapM_cons, readRecord, hdeep]
    rfl
  rw [hfails] at hrun
  have hlast : (j.answers [(m, .read e.ticket)] w₁).1 = .error .tooDeep :=
    answers_cons_error (c := (m, .read e.ticket)) (answer_read hrun)
  rw [answers_cons (c := (m, .log e)) (answer_log hlog), hlast]
  rfl

theorem answers_deepEvent :
    (logsJournal.answers [(nine, .log deepEvent), (nine, .read "api-1")] logsWorld).1 =
      .error .tooDeep := by
  have hvalue : IsValue (.record deepEvent.payload) :=
    .record (by decide) fun f hf => List.mem_singleton.1 hf ▸ Json.isValue_nestedList _
  have hnests : NestsWithin (nestingLimit + 1) (.record deepEvent.payload) :=
    .record fun f hf => List.mem_singleton.1 hf ▸ Json.nestsWithin_nestedList _
  have hrecord := isRecord_recordOf hvalue nine
  have hwritable : IsWritable writingLimit (recordOf nine deepEvent) :=
    Json.isWritable_of_nestsWithin hrecord.isValue (nestsWithin_recordOf hnests nine) (by decide)
  exact answers_of_unreadable isAt_logsWorld startsEmpty_logsWorld (by decide) isTicket_api
    (by decide) hrecord hwritable isTooDeep_deepEvent

theorem answers_hugeEvent (later : List (Moment × Call)) :
    (logsJournal.answers ((nine, .log hugeEvent) :: later) logsWorld).1 =
      .error (.hugeNumeral (digitLimit + 1)) :=
  answers_of_unwritable isAt_logsWorld startsEmpty_logsWorld (by decide) isTicket_api (by decide)
    appended_hugeEvent later

/-- No event is added first in a directory whose path leaves too little room for the name. -/
theorem answers_of_far {m : Moment} {e : Event} (hroot : base.root = "/")
    (hempty : StartsEmpty base w) (hsize : base.text.utf8ByteSize ≤ Files.pathLimit)
    (hfar : Files.pathLimit <
      (Files.child base (fileName m (some m.stamp) e.ticket)).text.utf8ByteSize)
    (later : List (Moment × Call)) :
    ((⟨base⟩ : Journal).answers ((m, .log e) :: later) w).1 = .error (.system .nameTooLong
      (Files.child base (fileName m (some m.stamp) e.ticket)).text) := by
  have habsolute := hempty.directory.absolute
  have hresolve : Path.resolve w.cwd base = base :=
    Path.resolve_eq_self hroot fun name hname => (hempty.directory.leads.downwards name hname).1
  have hlog := append_of_far (j := ⟨base⟩) (w := { w with now := m })
    (World.expandHome_of_isAbsolute habsolute _) hresolve hempty.directory hsize
    (NameCache.use_of_notMem (hempty.unknown e.ticket)) hfar
  exact answers_cons_error (answer_log hlog)

def longName : String :=
  String.ofList (List.replicate 254 'd')

/-- A directory whose path is just short enough. -/
def farBase : Path :=
  ⟨"/", List.replicate 16 longName⟩

def farWorld : World :=
  { World.bare with
    files := ⟨(List.range 16).map fun n => (List.replicate (n + 1) longName, .directory)⟩ }

theorem utf8ByteSize_replicate (n : Nat) :
    (String.ofList (List.replicate n 'd')).utf8ByteSize = n := by
  have hascii : IsAscii (String.ofList (List.replicate n 'd')).toList := by
    intro c hc
    rw [String.toList_ofList] at hc
    rw [List.eq_of_mem_replicate hc]
    decide
  rw [utf8ByteSize_of_isAscii hascii, String.toList_ofList, List.length_replicate]

theorem utf8ByteSize_longName : longName.utf8ByteSize = 254 :=
  utf8ByteSize_replicate 254

theorem utf8ByteSize_join (s : String) (n : Nat) :
    (join "/" (List.replicate (n + 1) s)).utf8ByteSize = (n + 1) * s.utf8ByteSize + n := by
  induction n with
  | zero => simp [join]
  | succ n ih =>
    have hjoin : join "/" (List.replicate (n + 1 + 1) s) =
        s ++ "/" ++ join "/" (List.replicate (n + 1) s) := String.intercalate_cons_cons
    have hslash : "/".utf8ByteSize = 1 := rfl
    rw [hjoin, String.utf8ByteSize_append, String.utf8ByteSize_append, ih, hslash]
    rw [Nat.succ_mul (n + 1)]
    omega

theorem utf8ByteSize_farBase : farBase.text.utf8ByteSize = 4080 := by
  have htext : farBase.text = "/" ++ join "/" farBase.names := rfl
  have hslash : "/".utf8ByteSize = 1 := rfl
  rw [htext, String.utf8ByteSize_append, farBase, utf8ByteSize_join, utf8ByteSize_longName, hslash]

theorem utf8ByteSize_farBase_le : farBase.text.utf8ByteSize ≤ Files.pathLimit := by
  rw [utf8ByteSize_farBase]
  decide

theorem lookup_of_forall {α β : Type} [BEq α] [LawfulBEq α] {v : β} {l : List (α × β)} {k : α}
    (hall : ∀ p ∈ l, p.2 = v) (hmem : k ∈ l.map Prod.fst) : l.lookup k = some v := by
  induction l with
  | nil => cases hmem
  | cons p l ih =>
    obtain ⟨hp, hl⟩ := List.forall_mem_cons.1 hall
    rw [List.lookup_cons]
    by_cases hk : k = p.1
    · rw [beq_iff_eq.2 hk, hp]
    · rw [beq_eq_false_iff_ne.2 hk]
      exact ih hl ((List.mem_cons.1 hmem).resolve_left hk)

theorem map_fst_farWorld : farWorld.files.entries.map Prod.fst =
    (List.range 16).map fun n => List.replicate (n + 1) longName := by
  rw [farWorld, List.map_map]
  rfl

theorem entry?_farWorld {n : Nat} (h : n ≤ 16) :
    farWorld.files.entry? (List.replicate n longName) = some .directory := by
  cases n with
  | zero => rfl
  | succ n =>
    rw [Files.entry?, if_neg (by simp)]
    refine lookup_of_forall (fun p hp => ?_) ?_
    · obtain ⟨_, -, rfl⟩ := List.mem_map.1 hp
      rfl
    · rw [map_fst_farWorld]
      exact List.mem_map.2 ⟨n, List.mem_range.2 h, rfl⟩

theorem startsEmpty_farWorld : StartsEmpty farBase farWorld where
  directory := by
    refine ⟨by decide, fun name hname => ?_, fun n => ?_⟩
    · have hsize := utf8ByteSize_longName
      rw [List.eq_of_mem_replicate hname]
      refine ⟨fun hdots => ?_, Nat.le_trans (Nat.le_of_eq hsize) (by decide)⟩
      rw [hdots] at hsize
      exact absurd hsize (by decide)
    · rw [List.nil_append, farBase, List.take_replicate]
      exact entry?_farWorld (Nat.min_le_right n 16)
  empty name := by
    have hlength : farBase.names.length = 16 := List.length_replicate
    rw [Files.entry?, if_neg (by simp), List.lookup_eq_none_iff]
    intro p hp
    have hkey := List.mem_map_of_mem (f := Prod.fst) hp
    rw [map_fst_farWorld] at hkey
    obtain ⟨n, hn, hkey⟩ := List.mem_map.1 hkey
    have hn := List.mem_range.1 hn
    refine bne_iff_ne.2 fun heq => ?_
    have hlengths := congrArg List.length (heq.trans hkey.symm)
    rw [List.length_append, hlength, List.length_replicate, List.length_singleton] at hlengths
    omega
  nodup := List.nodup_nil
  unknown _ := List.not_mem_nil

theorem fileName_nine :
    fileName nine (some nine.stamp) "api-1" = "20240101T090000000-api-1.jsonl" := by
  decide +kernel

theorem lt_utf8ByteSize_child_farBase :
    Files.pathLimit < (Files.child farBase "20240101T090000000-api-1.jsonl").text.utf8ByteSize := by
  have habsolute : farBase.isAbsolute = true := by decide
  obtain ⟨sep, -, htext⟩ := Files.exists_text_child habsolute "20240101T090000000-api-1.jsonl"
  have hsize : "20240101T090000000-api-1.jsonl".utf8ByteSize = 30 := rfl
  have hlimit : Files.pathLimit = 4095 := rfl
  rw [htext, String.utf8ByteSize_append, String.utf8ByteSize_append, utf8ByteSize_farBase]
  omega

theorem answers_farWorld (later : List (Moment × Call)) :
    ((⟨farBase⟩ : Journal).answers ((nine, .log ⟨"api-1", "question_received", []⟩) :: later)
      farWorld).1 = .error (.system .nameTooLong
        (Files.child farBase "20240101T090000000-api-1.jsonl").text) := by
  have hfar := lt_utf8ByteSize_child_farBase
  rw [← fileName_nine] at hfar ⊢
  exact answers_of_far (e := ⟨"api-1", "question_received", []⟩) rfl startsEmpty_farWorld
    utf8ByteSize_farBase_le hfar later

/-- Of three bounds each is needed: on the digits of a number, on how deep a record is nested, and
on the path of the directory. Beyond any of them one event and a reading of its ticket fail. -/
theorem not_replies_beyond_limits :
    (logsJournal.answers [(nine, .log hugeEvent), (nine, .read "api-1")] logsWorld).1 =
        .error (.hugeNumeral (digitLimit + 1)) ∧
      (logsJournal.answers [(nine, .log deepEvent), (nine, .read "api-1")] logsWorld).1 =
        .error .tooDeep ∧
      StartsEmpty farBase farWorld ∧
      ((⟨farBase⟩ : Journal).answers [(nine, .log ⟨"api-1", "question_received", []⟩),
        (nine, .read "api-1")] farWorld).1 =
          .error (.system .nameTooLong
            (Files.child farBase "20240101T090000000-api-1.jsonl").text) :=
  ⟨answers_hugeEvent _, answers_deepEvent, startsEmpty_farWorld, answers_farWorld _⟩

end TableTalk.Log.Journal

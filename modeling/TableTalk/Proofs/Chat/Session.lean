import TableTalk.Proofs.Chat.Handling
import TableTalk.Proofs.Log.Ready
import TableTalk.Proofs.Log.Replies

/-!
# Chat sessions that survive

With the keyword rules and an engine of its own, a session comes to its end whatever is typed, as
long as its events can be written. It reads nothing behind the first line to leave, and the lines
that ask for something are handled under the tickets of the session in turn.
-/

namespace TableTalk

open TableTalk.Action Text Query Generation

namespace Chat

/-- The lines that get tickets: they stand before the first line to leave. -/
def asked (lines : List String) : List String :=
  (lines.takeWhile fun line => !isLeaving line).filter takesTicket

def ticketOf (name : String) (number : Nat) : String :=
  name ++ "-Q" ++ String.ofList ((Nat.toDigits 10 number).leftpad 3 '0')

def idled (w : World) (more : List Shown) (rest : List String) : World :=
  { w with screen := w.screen ++ more, input := rest }

theorem idled_idled (w : World) (a b : List Shown) (lines rest : List String) :
    idled (idled w a lines) b rest = idled w (a ++ b) rest := by
  simp only [idled, List.append_assoc]

namespace Session

/-- From one world to another, lines are handled one after another under running numbers. In
between, other lines may be read and told of. -/
inductive Handled (s : Session) : Nat → List String → World → World → Prop
  | done {number : Nat} {w : World} : Handled s number [] w w
  | idle {number : Nat} {lines : List String} {w w' : World} (more : List Shown)
      (rest : List String) : Handled s number lines (idled w more rest) w' →
      Handled s number lines w w'
  | line {number : Nat} {line : String} {lines : List String} {w w₁ w' : World} :
      s.Handles (ticketOf s.name number) line w w₁ → Handled s (number + 1) lines w₁ w' →
      Handled s number (line :: lines) w w'

variable {s : Session} {strict : Bool} {count number : Nat} {P : World → Prop}
  {lines : List String} {line : String} {w w' : World}

/-- Each line has its place among the others. -/
theorem Handled.exists_at {k : Nat} (h : s.Handled number lines w w')
    (hline : lines[k]? = some line) :
    ∃ w₁ w₂, s.Handled number (lines.take k) w w₁ ∧
      s.Handles (ticketOf s.name (number + k)) line w₁ w₂ ∧
      s.Handled (number + k + 1) (lines.drop (k + 1)) w₂ w' := by
  induction h generalizing k with
  | done => cases hline
  | idle more rest _ ih =>
    obtain ⟨w₁, w₂, hbefore, hhandles, hafter⟩ := ih hline
    exact ⟨w₁, w₂, .idle more rest hbefore, hhandles, hafter⟩
  | @line number first lines w w₁ w' hfirst hothers ih =>
    cases k with
    | zero =>
      obtain rfl : first = line := Option.some.inj hline
      exact ⟨w, w₁, .done, hfirst, hothers⟩
    | succ k =>
      obtain ⟨w₂, w₃, hbefore, hhandles, hafter⟩ := ih (k := k) hline
      have hnumber : number + (k + 1) = number + 1 + k := by omega
      rw [hnumber]
      exact ⟨w₂, w₃, .line hfirst hbefore, hhandles, hafter⟩

theorem ticketAt_eq (s : Session) (number : Nat) : s.ticketAt number = ticketOf s.name number := by
  have hdigits : (toString number).length = (Nat.toDigits 10 number).length := String.length_ofList
  rw [ticketAt, ticketOf, Double.padZeros, hdigits, List.leftpad, String.ofList_append]
  rfl

theorem length_ticketAt_le (s : Session) (hnumber : number ≤ count) :
    (s.ticketAt number).length ≤ (s.ticketAt count).length := by
  have hdigits : (toString number).length ≤ (toString count).length := by
    have hpos : 0 < (toString count).length := by
      rw [← String.length_toList]
      exact List.length_pos_of_ne_nil (repr_ne_nil count)
    have hcount : count < 10 ^ (toString count).length :=
      (length_repr_le_iff hpos).1 (Nat.le_refl _)
    exact (length_repr_le_iff hpos).2 (by omega)
  simp only [ticketAt, Double.padZeros, String.length_append, String.length_ofList,
    List.length_replicate]
  omega

theorem isWritable_recordOf {e : Event} {most n : Nat} (h : e.IsPlain most)
    (hmost : most < 10 ^ digitLimit) (m : Moment) :
    Json.IsWritable (n + 1) (Log.recordOf m e) := by
  rw [← Log.record_eq]
  refine .record fun f hf => ?_
  rcases Log.mem_record hf with ⟨text, htext⟩ | hf
  · exact htext ▸ .text text
  · have hplain := h f hf
    generalize f.2 = j at hplain
    cases hplain with
    | null => exact .null
    | text s => exact .text s
    | time d => exact .float d
    | count hcount => exact .int (Nat.lt_of_le_of_lt hcount hmost)

/-- A journal with a directory that is ready for events takes all events of a session whose tickets
are not too long for the name of a file. -/
theorem logs_of_sink {j : Log.Journal} (hsink : s.assistant.sink = some j.append) (base : Path)
    (hticket : (s.ticketAt count).length ≤ 200)
    (hrows : max 1 s.assistant.table.rowCount < 10 ^ digitLimit) :
    s.Logs count fun w => j.IsAt base w ∧ Log.IsReady base w where
  takes e number w hnumber he hplain hw := by
    obtain ⟨hat, hready⟩ := hw
    have hlength : e.ticket.length ≤ 200 := by
      rw [he]
      exact Nat.le_trans (length_ticketAt_le s hnumber) hticket
    obtain ⟨files, logNames, hrun, hafter⟩ := Log.Journal.append_of_isReady hat hready hlength
    rw [Log.Journal.isOk_appended_iff.2 (isWritable_recordOf hplain hrows w.now)] at hrun
    refine ⟨{ w with files, logNames }, ?_, ⟨hat.congr rfl rfl rfl, hafter⟩, rfl⟩
    rw [Passes, hsink]
    exact hrun
  stable w screen input ticksTaken hw :=
    ⟨hw.1.congr rfl rfl rfl, ⟨hw.2.directory, hw.2.shown, hw.2.remembered, hw.2.free⟩⟩

theorem readLine_nil (h : w.input = []) :
    World.readLine prompt w = (.ok none, idled w [.prompt prompt] []) := by
  rw [World.readLine, bind_of_ok (get_run w), h]
  rfl

theorem readLine_cons (h : w.input = line :: lines) :
    World.readLine prompt w = (.ok (some line), idled w [.prompt prompt] lines) := by
  rw [World.readLine, bind_of_ok (get_run w), h]
  rfl

theorem talk_nil (h : w.input = []) (s : Session) (number : Nat) :
    s.talk number 0 w =
      (.ok (), idled w ([.prompt prompt] ++ [.line "\nSession ended."]) []) := by
  rw [talk, bind_of_ok (readLine_nil h), turn, ← idled_idled w _ _ []]
  rfl

theorem talk_of_leaving (h : w.input = line :: lines) (hleaving : isLeaving line = true)
    (s : Session) (number n : Nat) : s.talk number (n + 1) w =
      (.ok (), idled w ([.prompt prompt] ++ [.line "Session ended."]) lines) := by
  rw [talk, bind_of_ok (readLine_cons h), turn, Command.ofLine_of_isLeaving hleaving,
    ← idled_idled w _ _ lines]
  rfl

/-- A line that gets no ticket and is not one to leave does not count. -/
theorem talk_of_uncounted (h : w.input = line :: lines) (hleaving : isLeaving line = false)
    (hticket : takesTicket line = false) (s : Session) (number n : Nat) :
    ∃ more, s.talk number (n + 1) w = s.talk number n (idled w more lines) := by
  by_cases hblank : isBlankLine line = true
  · refine ⟨[.prompt prompt], ?_⟩
    rw [talk, bind_of_ok (readLine_cons h), turn, Command.ofLine_of_isBlankLine hblank]
    rfl
  · rw [Bool.not_eq_true] at hblank
    have hcolumns : asksColumns line = true := by
      by_contra hother
      rw [Bool.not_eq_true] at hother
      rw [takesTicket_iff.2 ⟨hblank, hleaving, hother⟩] at hticket
      cases hticket
    refine ⟨[.prompt prompt] ++ [.line ("Columns: " ++ join ", " s.assistant.table.headers)], ?_⟩
    rw [talk, bind_of_ok (readLine_cons h), turn,
      Command.ofLine_of_asksColumns hblank hleaving hcolumns, ← idled_idled w _ _ lines]
    rfl

theorem talk_of_takesTicket (h : w.input = line :: lines) (hticket : takesTicket line = true)
    (s : Session) (number n : Nat) : s.talk number (n + 1) w =
      (s.serve (s.ticketAt number) (Command.ofLine line) >>= fun _ => s.talk (number + 1) n)
        (idled w [.prompt prompt] lines) := by
  have hturn : s.turn number (some line) =
      (do s.serve (s.ticketAt number) (Command.ofLine line); return some (number + 1)) := by
    rw [turn]
    rcases Command.ofLine_of_takesTicket hticket with ⟨-, hline⟩ | ⟨-, -, hline⟩ | ⟨_, -, -, hline⟩
    all_goals
      rw [hline]
  rw [talk, bind_of_ok (readLine_cons h), hturn, bind_assoc]
  rfl

theorem Logs.waits (h : s.Logs count P) (hw : P w) (more : List Shown) (rest : List String) :
    Waits P rest (idled w more rest) :=
  ⟨h.stable w _ _ _ hw, rfl⟩

/-- The session ends normally and has read the lines up to the first one to leave. Those that ask
for something have been handled in turn. -/
theorem talk_run (hlogs : s.Logs count P) (hsound : s.IsSound strict)
    (hnumber : number + lines.length ≤ count + 1) (hw : Waits P lines w) :
    ∃ w', s.talk number lines.length w = (.ok (), w') ∧
      w'.input = (lines.dropWhile fun line => !isLeaving line).tail ∧
      s.Handled number (asked lines) w w' := by
  -- Each line leaves a world of the kind, and a number that is still within the bound.
  induction lines generalizing number w with
  | nil => exact ⟨_, talk_nil hw.2 s number, rfl, .idle _ _ .done⟩
  | cons line lines ih =>
    rw [List.length_cons] at hnumber ⊢
    have hcount : number ≤ count := by omega
    by_cases hleaving : isLeaving line = true
    · rw [asked, List.dropWhile_cons_of_neg (by simp [hleaving]),
        List.takeWhile_cons_of_neg (by simp [hleaving])]
      exact ⟨_, talk_of_leaving hw.2 hleaving s number lines.length, rfl, .idle _ _ .done⟩
    rw [Bool.not_eq_true] at hleaving
    rw [asked, List.dropWhile_cons_of_pos (by simp [hleaving]),
      List.takeWhile_cons_of_pos (by simp [hleaving])]
    by_cases hticket : takesTicket line = true
    · obtain ⟨w₁, hserve, hhandles, hw₁⟩ := hlogs.serve_run hsound hcount hticket
        (hlogs.waits hw.1 [.prompt prompt] lines)
      have hnext : number + 1 + lines.length ≤ count + 1 := by omega
      obtain ⟨w', htalk, hinput, hhandled⟩ := ih hnext hw₁
      rw [List.filter_cons_of_pos hticket]
      rw [ticketAt_eq] at hhandles
      refine ⟨w', ?_, hinput, .idle _ _ (.line hhandles hhandled)⟩
      rw [talk_of_takesTicket hw.2 hticket, bind_of_ok hserve]
      exact htalk
    · rw [List.filter_cons_of_neg hticket]
      rw [Bool.not_eq_true] at hticket
      obtain ⟨more, htalk⟩ := talk_of_uncounted hw.2 hleaving hticket s number lines.length
      rw [htalk]
      have hnext : number + lines.length ≤ count + 1 := by omega
      obtain ⟨w', hrest, hinput, hhandled⟩ := ih hnext (hlogs.waits hw.1 more lines)
      exact ⟨w', hrest, hinput, .idle _ _ hhandled⟩

/-- A session with the keyword rules and an engine on a table of ASCII cells ends normally, whatever
the lines are, if its events can be written. It has then read the lines up to the first one to
leave, and those before it that ask for something were handled one after another, each under the
ticket with its number. -/
theorem start_ends {csv : String} (hlocal : s.assistant.IsLocal strict)
    (htable : Csv.parse csv = .ok s.assistant.table) (hcells : HasAsciiCells s.assistant.table)
    (hname : IsIdentifier s.assistant.tableName) (hlogs : s.Logs w.input.length P) (hw : P w) :
    ∃ w', s.start w = (.ok (), w') ∧
      w'.input = (w.input.dropWhile fun line => !isLeaving line).tail ∧
      s.Handled 1 (asked w.input) w w' ∧
      ∀ k line, (asked w.input)[k]? = some line →
        ∃ w₁ w₂, s.Handled 1 ((asked w.input).take k) w w₁ ∧
          s.Handles (ticketOf s.name (k + 1)) line w₁ w₂ ∧
          s.Handled (k + 2) ((asked w.input).drop (k + 1)) w₂ w' := by
  have hsound : s.IsSound strict :=
    ⟨hlocal, (Csv.isRectangular_of_parse htable).ne_nil, hcells, hname⟩
  let w₁ := idled w [.line (greeting s.assistant)] w.input
  have hstart : s.start w = s.talk 1 w.input.length w₁ := by
    rw [start, greet, bind_of_ok (World.print_run _ w), bind_of_ok (get_run _)]
    rfl
  have hcount : 1 + w.input.length ≤ w.input.length + 1 := by omega
  obtain ⟨w', htalk, hinput, hhandled⟩ := talk_run hlogs hsound hcount
    (hlogs.waits hw [.line (greeting s.assistant)] w.input)
  have hall : s.Handled 1 (asked w.input) w w' := .idle _ _ hhandled
  refine ⟨w', hstart.trans htalk, hinput, hall, fun k line hline => ?_⟩
  obtain ⟨w₂, w₃, hbefore, hhandles, hafter⟩ := hall.exists_at hline
  rw [Nat.add_comm 1 k] at hhandles hafter
  exact ⟨w₂, w₃, hbefore, hhandles, hafter⟩

def salesTable : Table :=
  ⟨["region", "amount"], [[some "north", some "10"], [some "south", some "7"]]⟩

def salesSettings : Settings where
  source := ⟨none, none, none, "sales", Double.zero⟩
  model := none
  strict := true
  remote := none
  remoteTimeout := Double.zero
  paths := some (some "/logs")

def salesSession : Session where
  assistant :=
    { table := salesTable
      tableName := "sales"
      engine := ⟨salesTable, true⟩
      executor := .engine ⟨salesTable, true⟩
      generator := .only (.rules (RuleBook.standard "sales"))
      journal := Log.Journal.logsJournal
      sink := some Log.Journal.logsJournal.append }
  name := "s"
  maxRows := 20

def salesWorld : World :=
  { Log.Journal.logsWorld with
    input := ["", "/sql", " /columns", "/sql SELECT nope FROM sales", " hello ", "QUIT", "unread"] }

theorem build_salesSession :
    (Assistant.build salesSettings (some salesTable) Log.Journal.logsWorld).1 =
      .ok salesSession.assistant := by
  rfl

theorem isReady_salesWorld : Log.IsReady ⟨"/", ["logs"]⟩ salesWorld where
  directory := Log.Journal.startsEmpty_logsWorld.directory
  shown := by decide
  remembered e he := absurd he List.not_mem_nil
  free name _ := by
    intro hdirectory
    cases (Log.Journal.startsEmpty_logsWorld.empty name).symm.trans hdirectory

theorem asked_salesWorld :
    asked salesWorld.input = ["/sql", "/sql SELECT nope FROM sales", " hello "] := by
  decide +kernel

/-- The words for statements alone, a statement for a missing column and a question count. The
question is asked, logged and told of under the third ticket. -/
theorem start_ends_sales :
    ∃ w', salesSession.start salesWorld = (.ok (), w') ∧ w'.input = ["unread"] ∧
      ∃ v w₁ w₂, salesSession.Handled 1 ["/sql", "/sql SELECT nope FROM sales"] salesWorld w₁ ∧
        salesSession.agent.answerQuestion "s-Q003" (some "hello") w₁ =
          (.ok ⟨"s-Q003", some "hello", v⟩, w₂) ∧
        salesSession.Tells "s-Q003" (Agent.trail ⟨"s-Q003", some "hello", v⟩) w₁ w₂ ∧
        salesSession.Handled 4 [] (w₂.printed
          (["[s-Q003] status: " ++ v.status] ++ salesSession.verdictLines v ++ [""])) w' := by
  have hlocal : salesSession.assistant.IsLocal true :=
    Assistant.isLocal_of_build (s := salesSettings) rfl rfl build_salesSession
  have htable : Csv.parse "region,amount\nnorth,10\nsouth,7\n" =
      .ok salesSession.assistant.table := by
    decide +kernel
  have hcells : HasAsciiCells salesSession.assistant.table := by
    unfold HasAsciiCells
    decide
  have hname : IsIdentifier salesSession.assistant.tableName :=
    ⟨⟨'s', rfl, rfl⟩, List.all_eq_true.1 (by decide)⟩
  have hrows : max 1 salesSession.assistant.table.rowCount < 10 ^ digitLimit :=
    Nat.lt_of_lt_of_le (by decide : 2 < 10 ^ 1) (Nat.pow_le_pow_right (by decide) (by decide))
  have hlogs : salesSession.Logs salesWorld.input.length _ :=
    logs_of_sink rfl ⟨"/", ["logs"]⟩ (by decide) hrows
  have hat : Log.Journal.logsJournal.IsAt ⟨"/", ["logs"]⟩ salesWorld :=
    Log.Journal.isAt_logsWorld.congr rfl rfl rfl
  obtain ⟨w', hstart, hinput, -, hhandled⟩ :=
    start_ends hlocal htable hcells hname hlogs ⟨hat, isReady_salesWorld⟩
  rw [asked_salesWorld] at hhandled
  obtain ⟨w₁, w₂, hbefore, hhandles, hafter⟩ := hhandled 2 " hello " rfl
  have hrest : (salesWorld.input.dropWhile fun line => !isLeaving line).tail = ["unread"] := by
    decide +kernel
  have hticket : ticketOf salesSession.name (2 + 1) = "s-Q003" := by decide
  have htext : trim " hello " = "hello" := by decide
  have hquestion : isStatement " hello " = false := by decide
  rw [hticket] at hhandles
  refine ⟨w', hstart, hinput.trans hrest, ?_⟩
  cases hhandles with
  | question _ hrun htells =>
    rw [htext] at hrun htells
    exact ⟨_, w₁, _, hbefore, hrun, htells, hafter⟩
  | executed hstatement => cases hquestion.symm.trans hstatement
  | refused hstatement => cases hquestion.symm.trans hstatement
  | unused hstatement => cases hquestion.symm.trans hstatement

end Session

end Chat

end TableTalk

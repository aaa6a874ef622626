import TableTalk.Proofs.Agent.Answering
import TableTalk.Proofs.Assistant.Build
import TableTalk.Proofs.Chat.Lines

/-!
# How a line is handled

A question is answered under its ticket and a statement is run under it: the events of the ticket go
to the journal one after another, each is told on the screen, and then comes the line with the
ticket and the status. With the keyword rules and an engine of its own, a session handles every
line.
-/

namespace TableTalk

open TableTalk.Action Text Query Generation

def World.printed (w : World) (lines : List String) : World :=
  { w with screen := w.screen ++ lines.map .line }

namespace World

theorem printed_nil (w : World) : w.printed [] = w := by
  rw [printed, List.map_nil, List.append_nil]

theorem printed_printed (w : World) (a b : List String) :
    (w.printed a).printed b = w.printed (a ++ b) := by
  simp only [printed, List.map_append, List.append_assoc]

theorem print_run (line : String) (w : World) : print line w = (.ok (), w.printed [line]) :=
  rfl

end World

namespace Chat

theorem printAll_run (lines : List String) (w : World) :
    Session.printAll lines w = (.ok (), w.printed lines) := by
  induction lines generalizing w with
  | nil => exact congrArg _ w.printed_nil.symm
  | cons line lines ih =>
    have hcons : Session.printAll (line :: lines) =
        (World.print line >>= fun _ => Session.printAll lines) := rfl
    rw [hcons, bind_of_ok (World.print_run line w), ih, World.printed_printed]
    rfl

namespace Session

variable {s : Session} {strict : Bool} {ticket line : String} {events : List Event} {e : Event}
  {w w' : World}

def Passes (s : Session) (e : Event) (w w' : World) : Prop :=
  match s.assistant.sink with
  | some sink => sink e w = (.ok (), w')
  | none => w' = w

/-- From one world to another, events of the ticket go to the sink and are told on the screen, one
after another. Apart from that, readings of the stopwatch may be taken. -/
inductive Tells (s : Session) (ticket : String) : List Event → World → World → Prop
  | done {w : World} : Tells s ticket [] w w
  | ticked {events : List Event} {w w' : World} :
      Tells s ticket events w.ticked w' → Tells s ticket events w w'
  | event {e : Event} {events : List Event} {w w₁ w' : World} :
      e.ticket = ticket → s.Passes e w w₁ →
      Tells s ticket events (w₁.printed ["  ↳ " ++ notice e.name e.payload]) w' →
      Tells s ticket (e :: events) w w'

def statusLine (ticket status : String) : String :=
  "[" ++ ticket ++ "] status: " ++ status

/-- A line is handled under a ticket. The agent is called with the ticket, and the events are those
of its answer or of its result. What is shown last is the answer or the result under the ticket, a
failure, or how the word for statements is used. -/
inductive Handles (s : Session) (ticket line : String) (w : World) : World → Prop
  | question {v : Agent.Verdict} {w₁ : World} : isStatement line = false →
      s.agent.answerQuestion ticket (some (trim line)) w = (.ok ⟨ticket, some (trim line), v⟩, w₁) →
      s.Tells ticket (Agent.trail ⟨ticket, some (trim line), v⟩) w w₁ →
      Handles s ticket line w
        (w₁.printed ([statusLine ticket v.status] ++ s.verdictLines v ++ [""]))
  | executed {statement : String} {result : ResultSet} {w₁ : World} : isStatement line = true →
      Gives line statement →
      s.agent.runSql ticket statement w = (.ok result, w₁) →
      s.Tells ticket [Agent.executed ticket statement result] w w₁ →
      Handles s ticket line w (w₁.printed
        ([statusLine ticket "executed", "SQL: " ++ statement] ++ s.resultLines result ++ [""]))
  | refused {statement : String} {f : Failure} {w₁ : World} : isStatement line = true →
      Gives line statement →
      s.agent.runSql ticket statement w = (.error f, w₁) →
      s.Tells ticket [] w w₁ →
      Handles s ticket line w (w₁.printed ["Error: " ++ f.message])
  | unused : isStatement line = true → IsWord line →
      Handles s ticket line w (w.printed ["Usage: /sql <statement>"])

theorem agent_sink_run {w₁ : World} (h : s.Passes e w w₁) :
    s.agent.sink e w = (.ok (), w₁.printed ["  ↳ " ++ notice e.name e.payload]) := by
  have hsink : s.assistant.agent.sink e w = (.ok (), w₁) := by
    rw [Passes] at h
    rw [Assistant.agent]
    cases hsome : s.assistant.sink with
    | some sink =>
      rw [hsome] at h
      exact h
    | none =>
      rw [hsome] at h
      exact h ▸ rfl
  exact bind_of_ok hsink

theorem exists_passes (h : s.agent.sink e w = (.ok (), w')) :
    ∃ w₁, s.Passes e w w₁ ∧ w' = w₁.printed ["  ↳ " ++ notice e.name e.payload] := by
  rcases hrun : s.assistant.agent.sink e w with ⟨f | ⟨⟩, w₁⟩
  · have hfails : s.agent.sink e w = (.error f, w₁) := bind_of_error hrun
    rw [hfails] at h
    cases (Prod.mk.inj h).1
  · have hpasses : s.Passes e w w₁ := by
      rw [Assistant.agent] at hrun
      rw [Passes]
      cases hsome : s.assistant.sink with
      | some sink =>
        rw [hsome] at hrun
        exact hrun
      | none =>
        rw [hsome] at hrun
        exact (Prod.mk.inj hrun).2.symm
    have hprinted := (agent_sink_run hpasses).symm.trans h
    exact ⟨w₁, hpasses, (Prod.mk.inj hprinted).2.symm⟩

theorem generator_run (hlocal : s.assistant.IsLocal strict) (question : Option String) (w : World) :
    (s.agent.generator.generate question w).2 = w := by
  have hgenerator : s.agent.generator = _ := hlocal.generator
  rw [hgenerator, Generator.generate, Generator.generate]
  cases (RuleBook.standard s.assistant.tableName).statementFor (question.getD "") <;> rfl

/-- What an agent with a generator and an executor of its own logs is told. -/
theorem tells_of_logs (hlocal : s.assistant.IsLocal strict) (h : s.agent.Logs events w w')
    (hticket : ∀ e ∈ events, e.ticket = ticket) : s.Tells ticket events w w' := by
  induction h with
  | done => exact .done
  | generate question _ ih =>
    rw [generator_run hlocal] at ih
    exact ih hticket
  | @execute statement events w w' _ ih =>
    have hexecutor : s.agent.executor.run statement w =
        (⟨s.assistant.table, strict⟩ : Engine).run statement w := by
      have hengine : s.agent.executor = _ := hlocal.executor
      rw [hengine]
      rfl
    rw [hexecutor] at ih
    cases heval : evaluate strict s.assistant.table statement with
    | ok answer =>
      rw [Engine.run_of_ok heval] at ih
      exact .ticked (.ticked (ih hticket))
    | error f =>
      rw [Engine.run_of_error heval] at ih
      exact .ticked (ih hticket)
  | log hsink _ ih =>
    obtain ⟨w₁, hpasses, rfl⟩ := exists_passes hsink
    obtain ⟨hfirst, hothers⟩ := List.forall_mem_cons.1 hticket
    exact .event hfirst hpasses (ih hothers)

def Waits (P : World → Prop) (lines : List String) (w : World) : Prop :=
  P w ∧ w.input = lines

/-- The events of the first tickets of a session can be written in worlds of a kind, which has
nothing to do with the screen, the lines to read and the stopwatch. To write them reads no line. -/
structure Logs (s : Session) (count : Nat) (P : World → Prop) : Prop where
  takes : ∀ (e : Event) (number : Nat) (w : World), number ≤ count → e.ticket = s.ticketAt number →
    e.IsPlain (max 1 s.assistant.table.rowCount) → P w →
    ∃ w', s.Passes e w w' ∧ P w' ∧ w'.input = w.input
  stable : ∀ w screen input ticksTaken, P w → P { w with screen, input, ticksTaken }

structure IsSound (s : Session) (strict : Bool) : Prop where
  isLocal : s.assistant.IsLocal strict
  headers : s.assistant.table.headers ≠ []
  cells : HasAsciiCells s.assistant.table
  name : IsIdentifier s.assistant.tableName

namespace Logs

variable {count number : Nat} {P : World → Prop} {lines : List String}

theorem printed (h : s.Logs count P) (hw : Waits P lines w) (more : List String) :
    Waits P lines (w.printed more) :=
  ⟨h.stable w _ _ _ hw.1, hw.2⟩

theorem works (h : s.Logs count P) (hlocal : s.assistant.IsLocal strict)
    (hnumber : number ≤ count) (lines : List String) :
    s.agent.Works ⟨s.assistant.table, strict⟩ (Waits P lines) (s.ticketAt number) where
  executor := hlocal.executor
  takes e w hticket hplain hw := by
    obtain ⟨w', hpasses, hw', hinput⟩ := h.takes e number w hnumber hticket hplain hw.1
    exact ⟨_, agent_sink_run hpasses, h.printed ⟨hw', hinput.trans hw.2⟩ _⟩
  ticked w hw := ⟨h.stable w _ _ _ hw.1, hw.2⟩

theorem answerQuestion_run (h : s.Logs count P) (hsound : s.IsSound strict)
    (hnumber : number ≤ count) (question : String) (hw : Waits P lines w) :
    ∃ v w', s.agent.answerQuestion (s.ticketAt number) (some question) w =
        (.ok ⟨s.ticketAt number, some question, v⟩, w') ∧
      s.Tells (s.ticketAt number) (Agent.trail ⟨s.ticketAt number, some question, v⟩) w w' ∧
      Waits P lines w' := by
  have hworks := h.works hsound.isLocal hnumber lines
  obtain ⟨v, w', hrun, hlogs, hw'⟩ := hworks.answerQuestion_run hsound.headers hsound.cells
    hsound.name hsound.isLocal.generator question hw
  exact ⟨v, w', hrun, tells_of_logs hsound.isLocal hlogs fun e he =>
    (Agent.reports_trail he).ticket_eq, hw'⟩

theorem runStatement_run (h : s.Logs count P) (hsound : s.IsSound strict)
    (hnumber : number ≤ count) {statement : String} (hstatement : isStatement line = true)
    (hgives : Gives line statement) (hw : Waits P lines w) :
    ∃ w', s.runStatement (s.ticketAt number) statement w = (.ok (), w') ∧
      s.Handles (s.ticketAt number) line w w' ∧ Waits P lines w' := by
  have hworks := h.works hsound.isLocal hnumber lines
  let tried : Action (Except Failure ResultSet) := do
    return .ok (← s.agent.runSql (s.ticketAt number) statement)
  rcases hworks.runSql_run statement hw with
    ⟨result, w₁, hrun, hlogs, hw₁⟩ | ⟨f, w₁, hrun, heval, hlogs, hw₁⟩
  · have htells := tells_of_logs hsound.isLocal hlogs (List.forall_mem_singleton.2 rfl)
    have hlines : statementLines statement "" = ["SQL: " ++ statement] :=
      if_neg hgives.ne_empty
    have htried : tried w = (.ok (.ok result), w₁) := bind_of_ok hrun
    refine ⟨_, ?_, .executed hstatement hgives hrun htells, h.printed hw₁ _⟩
    rw [runStatement, bind_of_ok (orElseIf_of_ok htried), hlines]
    dsimp only
    rw [report, printAll_run]
    rfl
  · have htells : s.Tells (s.ticketAt number) [] w w₁ :=
      tells_of_logs hsound.isLocal hlogs fun _ he => absurd he List.not_mem_nil
    have htold : f.isValueFailure = true := isValueFailure_of_evaluate hsound.headers heval
    have htried : tried w = (.error f, w₁) := bind_of_error hrun
    refine ⟨_, ?_, .refused hstatement hgives hrun htells, h.printed hw₁ _⟩
    rw [runStatement, bind_of_ok ((orElseIf_of_error htried htold).trans rfl)]
    rfl

/-- Whatever is asked for under a ticket of the session is handled, and the session goes on. -/
theorem serve_run (h : s.Logs count P) (hsound : s.IsSound strict) (hnumber : number ≤ count)
    (hline : takesTicket line = true) (hw : Waits P lines w) :
    ∃ w', s.serve (s.ticketAt number) (Command.ofLine line) w = (.ok (), w') ∧
      s.Handles (s.ticketAt number) line w w' ∧ Waits P lines w' := by
  rcases Command.ofLine_of_takesTicket hline with
    ⟨hquestion, hcommand⟩ | ⟨hstatement, hword, hcommand⟩ |
      ⟨statement, hstatement, hgives, hcommand⟩
  · obtain ⟨v, w₁, hrun, htells, hw₁⟩ := h.answerQuestion_run hsound hnumber (trim line) hw
    refine ⟨_, ?_, .question hquestion hrun htells, h.printed hw₁ _⟩
    rw [hcommand, serve, bind_of_ok hrun]
    exact printAll_run _ w₁
  · refine ⟨_, ?_, .unused hstatement hword, h.printed hw _⟩
    rw [hcommand]
    rfl
  · rw [hcommand]
    exact h.runStatement_run hsound hnumber hstatement hgives hw

end Logs

end Session

end Chat

end TableTalk

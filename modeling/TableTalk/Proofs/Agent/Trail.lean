import Mathlib.Data.List.Forall2
import TableTalk.Agent.Basic
import TableTalk.Proofs.Query.Refusal
import TableTalk.Proofs.World.Action

/-!
# The trail of an agent

An agent is asked questions and given statements, one after another. Whatever its generator and its
executor do, a question that gets an answer has left a whole trail of events that tell the same as
the answer, and one that fails has left the beginning of such a trail. The sink must take every
event; nothing is asked of the generator and the executor.
-/

namespace TableTalk

open TableTalk.Action Text

namespace Agent

namespace Answer

variable (answer : Answer)

theorem get?_ticket : answer.toJson.get? "ticket_id" = some (.text answer.ticket) :=
  rfl

theorem get?_question : answer.toJson.get? "question" = some (textOrNull answer.question) :=
  rfl

theorem get?_status : answer.toJson.get? "status" = some (.text answer.verdict.status) := by
  obtain ⟨ticket, question, v⟩ := answer
  cases v <;> rfl

theorem get?_sql : answer.toJson.get? "sql" =
    answer.verdict.generated?.map fun g => .text g.statement := by
  obtain ⟨ticket, question, v⟩ := answer
  cases v <;> rfl

theorem get?_source : answer.toJson.get? "source" =
    answer.verdict.generated?.map fun g => .text g.source := by
  obtain ⟨ticket, question, v⟩ := answer
  cases v <;> rfl

theorem get?_error : answer.toJson.get? "error" = answer.verdict.error?.map .text := by
  obtain ⟨ticket, question, v⟩ := answer
  cases v <;> rfl

theorem get?_result :
    answer.toJson.get? "result" = answer.verdict.result?.map ResultSet.toJson := by
  obtain ⟨ticket, question, v⟩ := answer
  cases v <;> rfl

end Answer

def received (ticket : String) (question : Option String) : Event :=
  ⟨ticket, "question_received", [("question", textOrNull question)]⟩

def notGenerated (ticket error : String) : Event :=
  ⟨ticket, "generation_failed", [("error", .text error)]⟩

def generated (ticket : String) (g : Generated) : Event :=
  ⟨ticket, "sql_generated", [("statement", .text g.statement), ("source", .text g.source)]⟩

def executed (ticket statement : String) (result : ResultSet) : Event :=
  ⟨ticket, "sql_executed", [
    ("statement", .text statement),
    ("row_count", .int result.rowCount),
    ("execution_time_ms", .float (result.elapsed.roundTo 3))]⟩

def resolved (ticket status : String) : Event :=
  ⟨ticket, "question_resolved", [("status", .text status)]⟩

def progress (ticket : String) : Verdict → List Event
  | .notGenerated error => [notGenerated ticket error]
  | .notExecuted g _ => [generated ticket g]
  | .answered g result _ => [generated ticket g, executed ticket g.statement result]

def trail (answer : Answer) : List Event :=
  received answer.ticket answer.question ::
    (progress answer.ticket answer.verdict ++ [resolved answer.ticket answer.verdict.status])

def stages (status : String) : List String :=
  if status = "generation_failed" then
    ["question_received", "generation_failed", "question_resolved"]
  else if status = "execution_failed" then
    ["question_received", "sql_generated", "question_resolved"]
  else ["question_received", "sql_generated", "sql_executed", "question_resolved"]

def IsFailed (status : String) : Prop :=
  status = "generation_failed" ∨ status = "execution_failed"

def reportedBy (name : String) : List String :=
  if name = "question_received" then ["question"]
  else if name = "generation_failed" then ["error"]
  else if name = "sql_generated" then ["statement", "source"]
  else if name = "sql_executed" then ["statement", "row_count", "execution_time_ms"]
  else ["status"]

def said (answer : Json) (name : String) : Option Json :=
  if name = "statement" then answer.get? "sql"
  else if name = "row_count" then (answer.get? "result").bind (Json.get? "rowCount")
  else answer.get? name

/-- An event is under the ticket and reports what the answer says too. Only the time that a
statement took is told in another form. -/
structure Reports (ticket : String) (answer : Json) (e : Event) : Prop where
  ticket_eq : e.ticket = ticket
  names_eq : e.payload.map Prod.fst = reportedBy e.name
  said_eq : ∀ field ∈ e.payload, field.1 ≠ "execution_time_ms" → said answer field.1 = some field.2

/-- An answer and a trail of events tell the same. The events are those of the status, and the last
of them carries it; the answer has what the status says it has. -/
structure Agrees (ticket : String) (question : Option String) (status : String) (answer : Json)
    (events : List Event) : Prop where
  names_eq : events.map Event.name = stages status
  reports : ∀ e ∈ events, Reports ticket answer e
  last : ∃ e, events.getLast? = some e ∧ e.payload = [("status", .text status)]
  ticket_eq : answer.get? "ticket_id" = some (.text ticket)
  question_eq : answer.get? "question" = some (textOrNull question)
  status_eq : answer.get? "status" = some (.text status)
  error_iff : (answer.get? "error").isSome ↔ IsFailed status
  result_iff : (answer.get? "result").isSome ↔ ¬ IsFailed status
  status_of_result : ¬ IsFailed status → ∃ statement, answer.get? "sql" = some (.text statement) ∧
    status = if Text.contains (lower statement) "select" then "answered" else "unsupported_query"

def Verdict.Knows : Verdict → Prop
  | .answered g _ isQuery => isQuery = Text.contains (lower g.statement) "select"
  | _ => True

section Agreement

variable {answer : Answer} {g : Generated} {result : ResultSet} {isQuery : Bool} {error : String}

theorem reports_received :
    Reports answer.ticket answer.toJson (received answer.ticket answer.question) where
  ticket_eq := rfl
  names_eq := rfl
  said_eq := List.forall_mem_singleton.2 fun _ => answer.get?_question

theorem reports_resolved :
    Reports answer.ticket answer.toJson (resolved answer.ticket answer.verdict.status) where
  ticket_eq := rfl
  names_eq := rfl
  said_eq := List.forall_mem_singleton.2 fun _ => answer.get?_status

theorem reports_notGenerated (h : answer.verdict = .notGenerated error) :
    Reports answer.ticket answer.toJson (notGenerated answer.ticket error) where
  ticket_eq := rfl
  names_eq := rfl
  said_eq := by
    refine List.forall_mem_singleton.2 fun _ => answer.get?_error.trans ?_
    rw [h]
    rfl

theorem reports_generated (h : answer.verdict.generated? = some g) :
    Reports answer.ticket answer.toJson (generated answer.ticket g) where
  ticket_eq := rfl
  names_eq := rfl
  said_eq := by
    refine List.forall_mem_cons.2 ⟨fun _ => answer.get?_sql.trans ?_,
      List.forall_mem_singleton.2 fun _ => answer.get?_source.trans ?_⟩
    all_goals
      rw [h]
      rfl

theorem reports_executed (h : answer.verdict = .answered g result isQuery) :
    Reports answer.ticket answer.toJson (executed answer.ticket g.statement result) where
  ticket_eq := rfl
  names_eq := rfl
  said_eq := by
    have hresult : answer.toJson.get? "result" = some result.toJson := by
      rw [answer.get?_result, h]
      rfl
    refine List.forall_mem_cons.2 ⟨fun _ => answer.get?_sql.trans ?_, List.forall_mem_cons.2
      ⟨fun _ => ?_, List.forall_mem_singleton.2 fun htime => absurd rfl htime⟩⟩
    · rw [h]
      rfl
    · change (answer.toJson.get? "result").bind (Json.get? "rowCount") = _
      rw [hresult]
      rfl

theorem reports_progress {e : Event} (he : e ∈ progress answer.ticket answer.verdict) :
    Reports answer.ticket answer.toJson e := by
  cases h : answer.verdict with
  | notGenerated error =>
    rw [h, progress, List.mem_singleton] at he
    exact he ▸ reports_notGenerated h
  | notExecuted g error =>
    rw [h, progress, List.mem_singleton] at he
    exact he ▸ reports_generated (by rw [h]; rfl)
  | answered g result isQuery =>
    rw [h, progress, List.mem_pair] at he
    rcases he with rfl | rfl
    · exact reports_generated (by rw [h]; rfl)
    · exact reports_executed h

theorem reports_trail {e : Event} (he : e ∈ trail answer) :
    Reports answer.ticket answer.toJson e := by
  rw [trail, List.mem_cons, List.mem_append, List.mem_singleton] at he
  rcases he with rfl | he | rfl
  · exact reports_received
  · exact reports_progress he
  · exact reports_resolved

theorem names_trail (answer : Answer) :
    (trail answer).map Event.name = stages answer.verdict.status := by
  obtain ⟨ticket, question, v⟩ := answer
  cases v with
  | notGenerated error => rfl
  | notExecuted g error => rfl
  | answered g result isQuery => cases isQuery <;> rfl

theorem isFailed_status_iff {v : Verdict} : IsFailed v.status ↔ v.result? = none := by
  cases v with
  | notGenerated error => exact iff_of_true (Or.inl rfl) rfl
  | notExecuted g error => exact iff_of_true (Or.inr rfl) rfl
  | answered g result isQuery =>
    refine iff_of_false ?_ (Option.some_ne_none result)
    have hstatus : ∀ isQuery : Bool,
        ¬ IsFailed (if isQuery then "answered" else "unsupported_query") := by
      unfold IsFailed
      decide
    exact hstatus isQuery

theorem agrees_trail (h : answer.verdict.Knows) :
    Agrees answer.ticket answer.question answer.verdict.status answer.toJson (trail answer) where
  names_eq := names_trail answer
  reports := fun _ he => reports_trail he
  last := ⟨resolved answer.ticket answer.verdict.status, by
    rw [trail, ← List.cons_append, List.getLast?_concat], rfl⟩
  ticket_eq := answer.get?_ticket
  question_eq := answer.get?_question
  status_eq := answer.get?_status
  error_iff := by
    rw [answer.get?_error, isFailed_status_iff]
    cases answer.verdict <;> simp [Verdict.error?, Verdict.result?]
  result_iff := by
    rw [answer.get?_result, isFailed_status_iff, Option.isSome_map, Option.isSome_iff_ne_none]
  status_of_result hdone := by
    rw [isFailed_status_iff] at hdone
    cases hv : answer.verdict with
    | notGenerated error => exact absurd (by rw [hv]; rfl) hdone
    | notExecuted g error => exact absurd (by rw [hv]; rfl) hdone
    | answered g result isQuery =>
      rw [hv] at h
      refine ⟨g.statement, ?_, ?_⟩
      · rw [answer.get?_sql, hv]
        rfl
      · rw [← show isQuery = _ from h]
        rfl

end Agreement

/-- A run from one world to another in which the sink takes the events, one after another, and
otherwise only the generator and the executor run. -/
inductive Logs (a : Agent) : List Event → World → World → Prop
  | done {w : World} : Logs a [] w w
  | generate (question : Option String) {events : List Event} {w w' : World} :
      Logs a events (a.generator.generate question w).2 w' → Logs a events w w'
  | execute (statement : String) {events : List Event} {w w' : World} :
      Logs a events (a.executor.run statement w).2 w' → Logs a events w w'
  | log {e : Event} {events : List Event} {w w₁ w' : World} :
      a.sink e w = (.ok (), w₁) → Logs a events w₁ w' → Logs a (e :: events) w w'

/-- A record of the events that the sink takes, in which nothing else leaves a trace. -/
structure Records (a : Agent) (seen : World → List Event) : Prop where
  sink : ∀ e w, seen (a.sink e w).2 = seen w ++ [e]
  generator : ∀ question, Keeps seen (a.generator.generate question)
  executor : ∀ statement, Keeps seen (a.executor.run statement)

variable {a : Agent} {events events' : List Event} {w w₁ w' : World} {ticket : String}
  {question : Option String} {statement : String} {g : Generated}

theorem Logs.append (h : a.Logs events w w₁) (h' : a.Logs events' w₁ w') :
    a.Logs (events ++ events') w w' := by
  induction h with
  | done => exact h'
  | generate question _ ih => exact .generate question (ih h')
  | execute statement _ ih => exact .execute statement (ih h')
  | log hsink _ ih => exact .log hsink (ih h')

/-- A record grows by the events. -/
theorem Logs.seen_eq {seen : World → List Event} (hseen : a.Records seen)
    (h : a.Logs events w w') : seen w' = seen w ++ events := by
  induction h with
  | done => exact (List.append_nil _).symm
  | generate question _ ih => rw [ih, hseen.generator question]
  | execute statement _ ih => rw [ih, hseen.executor statement]
  | @log e events w w₁ w' hsink _ ih =>
    have hlogged := hseen.sink e w
    rw [hsink] at hlogged
    rw [ih, hlogged, List.append_assoc, List.singleton_append]

def Takes (a : Agent) : Prop :=
  ∀ e w, ∃ w', a.sink e w = (.ok (), w')

/-- A statement that gives a result is reported, and one that fails is not. -/
theorem runSql_logs (hsink : a.Takes) (ticket statement : String) (w : World) :
    (∃ result w', a.runSql ticket statement w = (.ok result, w') ∧
        a.Logs [executed ticket statement result] w w') ∨
      ∃ f w', a.runSql ticket statement w = (.error f, w') ∧ a.Logs [] w w' := by
  rcases hrun : a.executor.run statement w with ⟨f | result, w₁⟩
  · refine Or.inr ⟨f, w₁, bind_of_error hrun, .execute statement ?_⟩
    rw [hrun]
    exact .done
  · obtain ⟨w₂, hlog⟩ := hsink (executed ticket statement result) w₁
    refine Or.inl ⟨result, w₂, (bind_of_ok hrun).trans (bind_of_ok hlog), .execute statement ?_⟩
    rw [hrun]
    exact .log hlog .done

/-- What is logged for a statement is right for its verdict, and when there is none it could still
become right for one. -/
theorem execute_logs (hsink : a.Takes) (ticket : String) (g : Generated) (w : World) :
    ∃ r w' v events, a.execute ticket g w = (r, w') ∧ (r = .ok v ∨ Fails r) ∧ v.Knows ∧
      progress ticket v = generated ticket g :: events ∧ a.Logs events w w' := by
  rcases runSql_logs hsink ticket g.statement w with
    ⟨result, w', hrun, hlogs⟩ | ⟨f, w', hrun, hlogs⟩
  · cases hparse : Query.parse g.statement with
    | ok q =>
      refine ⟨_, w', .answered g result q.isSome, _, orElseIf_of_ok ?_, Or.inl rfl,
        Query.isSome_of_parse hparse, rfl, hlogs⟩
      rw [bind_of_ok hrun, hparse]
      rfl
    | error f =>
      -- An answer never tells of a failure to read the statement.
      obtain ⟨-, digits, rfl⟩ := Query.parse_eq_error hparse
      have hother : isTold (.hugeNumeral digits) = false := rfl
      refine ⟨_, w', .answered g result (Text.contains (lower g.statement) "select"), _,
        orElseIf_of_other ?_ hother, Or.inr (fails_error _), rfl, rfl, hlogs⟩
      rw [bind_of_ok hrun, hparse]
      rfl
  · by_cases htold : isTold f = true
    · exact ⟨_, w', .notExecuted g f.message, _, orElseIf_of_error (bind_of_error hrun) htold,
        Or.inl rfl, trivial, rfl, hlogs⟩
    · exact ⟨_, w', .notExecuted g f.message, _,
        orElseIf_of_other (bind_of_error hrun) (Bool.eq_false_iff.2 htold), Or.inr (fails_error f),
        trivial, rfl, hlogs⟩

theorem resolve_run (hsink : a.Takes) (ticket : String) (question : Option String) (v : Verdict)
    (w : World) : ∃ w', a.resolve ticket question v w = (.ok ⟨ticket, question, v⟩, w') ∧
      a.Logs [resolved ticket v.status] w w' := by
  obtain ⟨w', hlog⟩ := hsink (resolved ticket v.status) w
  exact ⟨w', bind_of_ok hlog, .log hlog .done⟩

theorem generate_run (a : Agent) (question : Option String) (w : World) :
    (∃ r, a.generate question w = (.ok r, (a.generator.generate question w).2)) ∨
      ∃ f, a.generate question w = (.error f, (a.generator.generate question w).2) := by
  rcases hrun : a.generator.generate question w with ⟨f | g, w'⟩
  · have hfirst : (do return .ok (← a.generator.generate question) :
        Action (Except Failure Generated)) w = (.error f, w') := bind_of_error hrun
    by_cases htold : f.isGenerationFailure = true
    · exact Or.inl ⟨.error f, orElseIf_of_error hfirst htold⟩
    · exact Or.inr ⟨f, orElseIf_of_other hfirst (Bool.eq_false_iff.2 htold)⟩
  · exact Or.inl ⟨.ok g, orElseIf_of_ok (bind_of_ok hrun)⟩

/-- An answer to a question has left its trail, and a question that fails has left a proper part of
a trail that would be right for an answer. -/
theorem answerQuestion_logs (hsink : a.Takes) (ticket : String) (question : Option String)
    (w : World) :
    ∃ r w' v events rest, a.answerQuestion ticket question w = (r, w') ∧ a.Logs events w w' ∧
      Verdict.Knows v ∧ trail ⟨ticket, question, v⟩ = events ++ rest ∧
      (r = .ok ⟨ticket, question, v⟩ ∧ rest = [] ∨ Fails r ∧ rest ≠ []) := by
  obtain ⟨w₁, hreceived⟩ := hsink (received ticket question) w
  rcases generate_run a question w₁ with ⟨r, hgenerate⟩ | ⟨f, hgenerate⟩
  · cases r with
    | error f =>
      obtain ⟨w₃, hfailed⟩ := hsink (notGenerated ticket f.message)
        (a.generator.generate question w₁).2
      obtain ⟨w₄, hresolve, hlast⟩ := resolve_run hsink ticket question (.notGenerated f.message) w₃
      refine ⟨_, w₄, .notGenerated f.message, _, [], ?_,
        .log hreceived (.generate question (.log hfailed hlast)), trivial,
        (List.append_nil _).symm, Or.inl ⟨rfl, rfl⟩⟩
      exact (bind_of_ok hreceived).trans ((bind_of_ok hgenerate).trans
        ((bind_of_ok hfailed).trans hresolve))
    | ok g =>
      obtain ⟨w₃, hgenerated⟩ := hsink (generated ticket g) (a.generator.generate question w₁).2
      obtain ⟨r, w₄, v, events, hexecute, hr, hknows, hprogress, hlogs⟩ :=
        execute_logs hsink ticket g w₃
      have hstart : a.answerQuestion ticket question w =
          (a.execute ticket g >>= a.resolve ticket question) w₃ :=
        (bind_of_ok hreceived).trans ((bind_of_ok hgenerate).trans (bind_of_ok hgenerated))
      rcases hr with rfl | ⟨f, rfl⟩
      · obtain ⟨w₅, hresolve, hlast⟩ := resolve_run hsink ticket question v w₄
        refine ⟨_, w₅, v, _, [], hstart.trans ((bind_of_ok hexecute).trans hresolve),
          .log hreceived (.generate question (.log hgenerated (hlogs.append hlast))), hknows, ?_,
          Or.inl ⟨rfl, rfl⟩⟩
        rw [trail, hprogress, List.append_nil]
        rfl
      · refine ⟨_, w₄, v, _, [resolved ticket v.status], hstart.trans (bind_of_error hexecute),
          .log hreceived (.generate question (.log hgenerated hlogs)), hknows, ?_,
          Or.inr ⟨fails_error f, List.cons_ne_nil _ _⟩⟩
        rw [trail, hprogress]
        rfl
  · -- The trail could still become that of a question without a statement.
    exact ⟨_, _, .notGenerated f.message, _, _, (bind_of_ok hreceived).trans
      (bind_of_error hgenerate), .log hreceived (.generate question .done), trivial, rfl,
      Or.inr ⟨fails_error f, List.cons_ne_nil _ _⟩⟩

inductive Call where
  | question (ticket : String) (question : Option String)
  | statement (ticket statement : String)

inductive Reply where
  | answer (answer : Answer)
  | result (result : ResultSet)

def respond (a : Agent) : Call → Action Reply
  | .question ticket question => return .answer (← a.answerQuestion ticket question)
  | .statement ticket statement => return .result (← a.runSql ticket statement)

structure Turn where
  call : Call
  before : World
  outcome : Except Failure Reply
  after : World

def turns (a : Agent) : List Call → World → List Turn
  | [], _ => []
  | call :: calls, w =>
    ⟨call, w, (a.respond call w).1, (a.respond call w).2⟩ :: a.turns calls (a.respond call w).2

def afterwards (a : Agent) (calls : List Call) (w : World) : World :=
  calls.foldl (fun w call => (a.respond call w).2) w

/-- The events that a call has left are right. An answer agrees with its trail; a question without
an answer has left a proper beginning of a trail that agrees with some answer; a statement has left
one event if it gave a result, and none if it did not. -/
inductive Told : Call → Except Failure Reply → List Event → Prop
  | answered {ticket : String} {question : Option String} {answer : Answer} {status : String}
      {events : List Event} : Agrees ticket question status answer.toJson events →
      Told (.question ticket question) (.ok (.answer answer)) events
  | raised {ticket : String} {question : Option String} {answer : Answer} {status : String}
      {events rest : List Event} {f : Failure} :
      Agrees ticket question status answer.toJson (events ++ rest) → rest ≠ [] →
      Told (.question ticket question) (.error f) events
  | executed {ticket statement : String} {result : ResultSet} :
      Told (.statement ticket statement) (.ok (.result result))
        [Agent.executed ticket statement result]
  | notExecuted {ticket statement : String} {f : Failure} :
      Told (.statement ticket statement) (.error f) []

theorem exists_told (hsink : a.Takes) (call : Call) (w : World) :
    ∃ events, Told call (a.respond call w).1 events ∧ a.Logs events w (a.respond call w).2 := by
  cases call with
  | question ticket question =>
    obtain ⟨r, w', v, events, rest, hrun, hlogs, hknows, htrail, hr⟩ :=
      answerQuestion_logs hsink ticket question w
    have hagrees := @agrees_trail ⟨ticket, question, v⟩ hknows
    rw [htrail] at hagrees
    rcases hr with ⟨rfl, rfl⟩ | ⟨⟨f, rfl⟩, hrest⟩
    · have hrespond : a.respond (.question ticket question) w = (.ok (.answer _), w') :=
        bind_of_ok hrun
      rw [List.append_nil] at hagrees
      rw [hrespond]
      exact ⟨events, .answered hagrees, hlogs⟩
    · have hrespond : a.respond (.question ticket question) w = (.error f, w') :=
        bind_of_error hrun
      rw [hrespond]
      exact ⟨events, .raised hagrees hrest, hlogs⟩
  | statement ticket statement =>
    rcases runSql_logs hsink ticket statement w with
      ⟨result, w', hrun, hlogs⟩ | ⟨f, w', hrun, hlogs⟩
    · have hrespond : a.respond (.statement ticket statement) w = (.ok (.result result), w') :=
        bind_of_ok hrun
      rw [hrespond]
      exact ⟨_, .executed, hlogs⟩
    · have hrespond : a.respond (.statement ticket statement) w = (.error f, w') :=
        bind_of_error hrun
      rw [hrespond]
      exact ⟨_, .notExecuted, hlogs⟩

/-- Every call leaves events that tell rightly what came of it, whatever the generator and the
executor do and whatever was called for before. A record of what the sink takes grows by just these
events. -/
theorem exists_trails (hsink : a.Takes) (calls : List Call) (w : World) :
    ∃ trails, List.Forall₂ (fun turn events => Told turn.call turn.outcome events ∧
        a.Logs events turn.before turn.after ∧
        ∀ seen, a.Records seen → seen turn.after = seen turn.before ++ events)
        (a.turns calls w) trails ∧
      ∀ seen, a.Records seen → seen (a.afterwards calls w) = seen w ++ trails.flatten := by
  induction calls generalizing w with
  | nil => exact ⟨[], .nil, fun seen _ => (List.append_nil _).symm⟩
  | cons call calls ih =>
    obtain ⟨events, htold, hlogs⟩ := exists_told hsink call w
    obtain ⟨trails, hturns, hseen⟩ := ih (a.respond call w).2
    refine ⟨events :: trails, .cons ⟨htold, hlogs, fun seen h => hlogs.seen_eq h⟩ hturns,
      fun seen hrecords => ?_⟩
    rw [List.flatten_cons, ← List.append_assoc, ← hlogs.seen_eq hrecords]
    exact hseen seen hrecords

/-- An agent whose events go to the trail of the world. It takes questions for statements, and one
of these breaks its executor. -/
def sample : Agent where
  generator := .scripted fun question =>
    match question with
    | some text => return ⟨text, "echo"⟩
    | none => throw .emptyQuestion
  executor := .scripted fun statement =>
    if statement = "select" then throw .wrongKind
    else return ⟨["name"], [["Ada"], ["Bo"]], Double.zero⟩
  sink e := modify fun w => { w with trail := w.trail ++ [e] }

theorem records_sample : sample.Records World.trail where
  sink _ _ := rfl
  generator question := by
    cases question with
    | none => exact Keeps.throw _
    | some text => exact Keeps.pure _
  executor statement := by
    rw [sample, Executor.run]
    split
    · exact Keeps.throw _
    · exact Keeps.pure _

theorem exists_trails_sample :
    sample.Takes ∧ sample.Records World.trail ∧ ∃ trails,
      List.Forall₂ (fun turn events => Told turn.call turn.outcome events)
        (sample.turns [.question "Q-1" none, .question "Q-2" (some "drop"),
          .question "Q-3" (some "select"), .statement "S-4" "drop"] World.bare) trails ∧
      (sample.afterwards [.question "Q-1" none, .question "Q-2" (some "drop"),
        .question "Q-3" (some "select"), .statement "S-4" "drop"] World.bare).trail =
          trails.flatten := by
  have htakes : sample.Takes := fun _ _ => ⟨_, rfl⟩
  obtain ⟨trails, hturns, hseen⟩ := exists_trails htakes [.question "Q-1" none,
    .question "Q-2" (some "drop"), .question "Q-3" (some "select"), .statement "S-4" "drop"]
    World.bare
  exact ⟨htakes, records_sample, trails, hturns.imp fun _ _ h => h.1,
    hseen World.trail records_sample⟩

/-- There is no statement for the first question, no query for the second and no result for the
third. -/
example :
    (sample.afterwards [.question "Q-1" none, .question "Q-2" (some "drop"),
      .question "Q-3" (some "select")] World.bare).trail.map (fun e => (e.ticket, e.name)) = [
        ("Q-1", "question_received"), ("Q-1", "generation_failed"), ("Q-1", "question_resolved"),
        ("Q-2", "question_received"), ("Q-2", "sql_generated"), ("Q-2", "sql_executed"),
        ("Q-2", "question_resolved"), ("Q-3", "question_received"), ("Q-3", "sql_generated")] :=
  rfl

end Agent

end TableTalk

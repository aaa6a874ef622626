import TableTalk.Proofs.Agent.Trail
import TableTalk.Proofs.Execution.Engine
import TableTalk.Proofs.Generation.Limits

/-!
# Questions that are answered

An agent that goes by the standard rules and has an engine of its own answers every question and
leaves the whole trail of it, as long as its sink takes the events of the ticket: what the engine
fails for is part of the answer.
-/

namespace TableTalk

open TableTalk.Action Text Query Generation

inductive Json.IsPlain (most : Nat) : Json → Prop
  | null : IsPlain most .null
  | text (s : String) : IsPlain most (.text s)
  | time (d : Double) : IsPlain most (.float d)
  | count {n : Nat} : n ≤ most → IsPlain most (.int n)

def Event.IsPlain (most : Nat) (e : Event) : Prop :=
  ∀ f ∈ e.payload, f.2.IsPlain most

/-- An agent with an engine, whose sink takes the events of a ticket in worlds of a kind. No event
counts more rows than an answer may have. Neither the events nor a look at the stopwatch lead to a
world of another kind. -/
structure Agent.Works (a : Agent) (e : Engine) (I : World → Prop) (ticket : String) : Prop where
  executor : a.executor = .engine e
  takes : ∀ (event : Event) (w : World), event.ticket = ticket →
    event.IsPlain (max 1 e.table.rowCount) → I w → ∃ w', a.sink event w = (.ok (), w') ∧ I w'
  ticked : ∀ w, I w → I w.ticked

namespace Agent

variable {most : Nat} {ticket : String}

theorem isPlain_received (ticket : String) (question : Option String) :
    (received ticket question).IsPlain most := by
  refine List.forall_mem_singleton.2 ?_
  cases question with
  | none => exact .null
  | some text => exact .text text

theorem isPlain_generated (ticket : String) (g : Generated) : (generated ticket g).IsPlain most :=
  List.forall_mem_cons.2 ⟨.text _, List.forall_mem_singleton.2 (.text _)⟩

theorem isPlain_executed (ticket statement : String) {result : ResultSet}
    (h : result.rowCount ≤ most) : (executed ticket statement result).IsPlain most :=
  List.forall_mem_cons.2 ⟨.text _, List.forall_mem_cons.2
    ⟨.count h, List.forall_mem_singleton.2 (.time _)⟩⟩

theorem isPlain_resolved (ticket status : String) : (resolved ticket status).IsPlain most :=
  List.forall_mem_singleton.2 (.text _)

namespace Works

variable {a : Agent} {e : Engine} {I : World → Prop} {w : World}

/-- A statement fails only for what the engine fails for. -/
theorem runSql_run (h : a.Works e I ticket) (statement : String) (hw : I w) :
    (∃ result w', a.runSql ticket statement w = (.ok result, w') ∧
        a.Logs [executed ticket statement result] w w' ∧ I w') ∨
      ∃ f w', a.runSql ticket statement w = (.error f, w') ∧
        evaluate e.strict e.table statement = .error f ∧ a.Logs [] w w' ∧ I w' := by
  have hexecutor : a.executor.run statement w = e.run statement w := by
    rw [h.executor]
    rfl
  cases heval : evaluate e.strict e.table statement with
  | ok answer =>
    let result : ResultSet := ⟨answer.columns, answer.rows, w.lapse⟩
    have hrun : a.executor.run statement w = (.ok result, w.ticked.ticked) :=
      hexecutor.trans (Engine.run_of_ok heval w)
    have hplain : (executed ticket statement result).IsPlain (max 1 e.table.rowCount) :=
      isPlain_executed ticket statement (length_rows_le heval)
    obtain ⟨w', hlog, hw'⟩ :=
      h.takes (executed ticket statement result) _ rfl hplain (h.ticked _ (h.ticked _ hw))
    refine Or.inl ⟨result, w', (bind_of_ok hrun).trans (bind_of_ok hlog), .execute statement ?_,
      hw'⟩
    rw [hrun]
    exact .log hlog .done
  | error f =>
    have hrun : a.executor.run statement w = (.error f, w.ticked) :=
      hexecutor.trans (Engine.run_of_error heval w)
    refine Or.inr ⟨f, _, bind_of_error hrun, rfl, .execute statement ?_, h.ticked _ hw⟩
    rw [hrun]
    exact .done

theorem resolve_run (h : a.Works e I ticket) (question : Option String) (v : Verdict) (hw : I w) :
    ∃ w', a.resolve ticket question v w = (.ok ⟨ticket, question, v⟩, w') ∧
      a.Logs [resolved ticket v.status] w w' ∧ I w' := by
  obtain ⟨w', hlog, hw'⟩ :=
    h.takes (resolved ticket v.status) w rfl (isPlain_resolved ticket v.status) hw
  exact ⟨w', bind_of_ok hlog, .log hlog .done, hw'⟩

theorem execute_run (h : a.Works e I ticket) (hheaders : e.table.headers ≠ [])
    (hcells : HasAsciiCells e.table) {g : Generated} (hlimit : ¬ HasHugeLimit g.statement)
    (hw : I w) :
    ∃ v w' events, a.execute ticket g w = (.ok v, w') ∧
      progress ticket v = generated ticket g :: events ∧ a.Logs events w w' ∧ I w' := by
  rcases h.runSql_run g.statement hw with
    ⟨result, w', hrun, hlogs, hw'⟩ | ⟨f, w', hrun, heval, hlogs, hw'⟩
  · cases hparse : parse g.statement with
    | ok q =>
      refine ⟨.answered g result q.isSome, w', _, orElseIf_of_ok ?_, rfl, hlogs, hw'⟩
      rw [bind_of_ok hrun, hparse]
      rfl
    | error f => exact absurd (fails_parse_iff.1 ⟨f, hparse⟩).2 hlimit
  · have htold : isTold f = true := by
      rw [isTold, isColumnFailure_of_evaluate hheaders (not_hasDottedCell hcells) hlimit heval]
      rfl
    exact ⟨.notExecuted g f.message, w', _, orElseIf_of_error (bind_of_error hrun) htold, rfl,
      hlogs, hw'⟩

theorem generate_run {table : String} (htable : IsIdentifier table)
    (hgenerator : a.generator = .only (.rules (RuleBook.standard table))) (question : String)
    (w : World) :
    ∃ g : Generated, a.generator.generate (some question) w = (.ok g, w) ∧
      ¬ HasHugeLimit g.statement := by
  obtain ⟨sides, hsides, -, hstatement⟩ := RuleBook.exists_statementFor_standard table question
  refine ⟨⟨sides.1 ++ table ++ sides.2, "rules"⟩, ?_, not_hasHugeLimit_standard htable hsides⟩
  rw [hgenerator, Generator.generate, Generator.generate, Option.getD_some, hstatement]
  rfl

/-- Every question is answered under its ticket and leaves the trail of its answer. -/
theorem answerQuestion_run (h : a.Works e I ticket) (hheaders : e.table.headers ≠ [])
    (hcells : HasAsciiCells e.table) {table : String} (htable : IsIdentifier table)
    (hgenerator : a.generator = .only (.rules (RuleBook.standard table))) (question : String)
    (hw : I w) :
    ∃ v w', a.answerQuestion ticket (some question) w = (.ok ⟨ticket, some question, v⟩, w') ∧
      a.Logs (trail ⟨ticket, some question, v⟩) w w' ∧ I w' := by
  obtain ⟨w₁, hreceived, hw₁⟩ :=
    h.takes (received ticket (some question)) w rfl (isPlain_received ticket _) hw
  obtain ⟨g, hrules, hlimit⟩ := generate_run htable hgenerator question w₁
  have hgenerate : a.generate (some question) w₁ = (.ok (.ok g), w₁) :=
    orElseIf_of_ok (bind_of_ok hrules)
  obtain ⟨w₂, hgenerated, hw₂⟩ :=
    h.takes (generated ticket g) w₁ rfl (isPlain_generated ticket g) hw₁
  obtain ⟨v, w₃, events, hexecute, hprogress, hlogs, hw₃⟩ :=
    h.execute_run hheaders hcells hlimit hw₂
  obtain ⟨w₄, hresolve, hlast, hw₄⟩ := h.resolve_run (some question) v hw₃
  refine ⟨v, w₄, ?_, ?_, hw₄⟩
  · exact (bind_of_ok hreceived).trans ((bind_of_ok hgenerate).trans
      ((bind_of_ok hgenerated).trans ((bind_of_ok hexecute).trans hresolve)))
  · rw [trail, hprogress]
    refine .log hreceived (.generate (some question) ?_)
    rw [hrules]
    exact .log hgenerated (hlogs.append hlast)

end Works

end Agent

end TableTalk

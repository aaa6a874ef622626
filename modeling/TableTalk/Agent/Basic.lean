import TableTalk.Double.Shortest
import TableTalk.Execution.Executor
import TableTalk.Generation.Generator

/-!
# Answering questions

An agent turns a question into a statement, runs it and reports each step to a sink: the question
received, the statement generated or the failure to generate one, the statement executed, and the
question resolved with its status. A statement may also be run directly.
-/

namespace TableTalk

structure Agent where
  generator : Generator
  executor : Executor
  /-- Where events go. -/
  sink : Event → Action Unit

namespace Agent

/-- How a question was answered. -/
inductive Verdict where
  | notGenerated (error : String)
  | notExecuted (generated : Generated) (error : String)
  /-- The statement was run; `isQuery` tells whether it was a query at all. -/
  | answered (generated : Generated) (result : ResultSet) (isQuery : Bool)
  deriving DecidableEq, Repr

namespace Verdict

def status : Verdict → String
  | notGenerated _ => "generation_failed"
  | notExecuted _ _ => "execution_failed"
  | answered _ _ isQuery => if isQuery then "answered" else "unsupported_query"

def generated? : Verdict → Option Generated
  | notGenerated _ => none
  | notExecuted g _ => some g
  | answered g _ _ => some g

def error? : Verdict → Option String
  | notGenerated e => some e
  | notExecuted _ e => some e
  | answered _ _ _ => none

def result? : Verdict → Option ResultSet
  | answered _ r _ => some r
  | _ => none

end Verdict

structure Answer where
  ticket : String
  question : Option String
  verdict : Verdict
  deriving DecidableEq, Repr

/-- A field that is there only if it has a value. -/
def field? (name : String) (value : Option Json) : List (String × Json) :=
  (value.map fun v => [(name, v)]).getD []

def textOrNull (s : Option String) : Json := (s.map Json.text).getD .null

namespace Answer

def toJson (a : Answer) : Json :=
  let v := a.verdict
  .record (
    [("ticket_id", .text a.ticket), ("question", textOrNull a.question)]
      ++ field? "sql" (v.generated?.map fun g => .text g.statement)
      ++ field? "source" (v.generated?.map fun g => .text g.source)
      ++ [("status", .text v.status)]
      ++ field? "error" (v.error?.map .text)
      ++ field? "result" (v.result?.map ResultSet.toJson))

end Answer

def log (a : Agent) (ticket name : String) (payload : List (String × Json)) : Action Unit :=
  a.sink ⟨ticket, name, payload⟩

def runSql (a : Agent) (ticket statement : String) : Action ResultSet := do
  let result ← a.executor.run statement
  a.log ticket "sql_executed" [
    ("statement", .text statement),
    ("row_count", .int result.rowCount),
    ("execution_time_ms", .float (result.elapsed.roundTo 3))]
  return result

def resolve (a : Agent) (ticket : String) (question : Option String) (v : Verdict) :
    Action Answer := do
  a.log ticket "question_resolved" [("status", .text v.status)]
  return ⟨ticket, question, v⟩

/-- The failures of an execution that an answer tells of; any others end the run. -/
def isTold (f : Failure) : Bool := f.isColumnFailure || f.isRemoteFailure

def execute (a : Agent) (ticket : String) (g : Generated) : Action Verdict :=
  Action.orElseIf isTold (do
      let result ← a.runSql ticket g.statement
      let query ← Action.ofExcept (Query.parse g.statement)
      return .answered g result query.isSome) fun f =>
    return .notExecuted g f.message

def generate (a : Agent) (question : Option String) : Action (Except Failure Generated) :=
  Action.orElseIf Failure.isGenerationFailure
    (do return .ok (← a.generator.generate question)) fun f => return .error f

def answerQuestion (a : Agent) (ticket : String) (question : Option String) : Action Answer := do
  a.log ticket "question_received" [("question", textOrNull question)]
  match ← a.generate question with
  | .error f =>
    a.log ticket "generation_failed" [("error", .text f.message)]
    a.resolve ticket question (.notGenerated f.message)
  | .ok g =>
    a.log ticket "sql_generated" [("statement", .text g.statement), ("source", .text g.source)]
    a.resolve ticket question (← a.execute ticket g)

end Agent

end TableTalk

import TableTalk.Assistant.Basic

/-!
# Scenarios

A scenario is a question or a statement to be run as part of a batch, perhaps with a ticket. The
scenarios of a profile stand in a file under a directory; `runProfile` runs them one after another,
giving a ticket to each that has none.
-/

namespace TableTalk

structure Scenario where
  entries : List (String × Value)

namespace Scenario

/-- The value of an entry that counts as something. -/
def entry? (s : Scenario) (name : String) : Option Value :=
  (s.entries.lookup name).bind fun v => if v.isFalsy then none else some v

/-- The scenario with a ticket, unless it has an entry for one. -/
def withTicket (s : Scenario) (ticket : String) : Scenario :=
  if (s.entries.lookup "ticket_id").isSome then s
  else ⟨s.entries ++ [("ticket_id", .text ticket)]⟩

def ticket (s : Scenario) : String :=
  (( s.entry? "ticket_id").map Value.display).getD "scenario"

/-- Sets an entry: in place if its name is there already, else at the end. -/
def put (name : String) (value : Value) : List (String × Value) → List (String × Value)
  | [] => [(name, value)]
  | (n, v) :: rest => if n = name then (n, value) :: rest else (n, v) :: put name value rest

def ofValue (v : Value) : Except Failure Scenario :=
  match v.unfold with
  | .map entries => .ok ⟨entries.foldl (fun done (k, v) => put k.display v done) []⟩
  | _ => .error .scenarioNotMapping

def listOf (v : Value) : Except Failure (List Scenario) :=
  if v.isFalsy then .ok []
  else
    match v.unfold with
    | .list items => items.mapM ofValue
    | _ => .error .scenariosNotList

/-- The scenarios of a profile; a profile without a file has none. -/
def loadProfile (directory : Path) (profile : String) : Action (List Scenario) := do
  let file := directory.append (Path.parse (profile ++ ".yaml"))
  if ← World.pathExists file then
    let text ← World.readText false file
    Action.ofExcept ((Yaml.parse text).bind listOf)
  else return []

inductive Outcome where
  | answered (answer : Agent.Answer)
  | executed (ticket statement : String) (result : ResultSet)
  | refused (ticket statement error : String)

namespace Outcome

def toJson : Outcome → Json
  | answered a => a.toJson
  | executed ticket statement result =>
    .record [("ticket_id", .text ticket), ("sql", .text statement), ("status", .text "executed"),
      ("result", result.toJson)]
  | refused ticket statement error =>
    .record [("ticket_id", .text ticket), ("sql", .text statement),
      ("status", .text "execution_failed"), ("error", .text error)]

end Outcome

/-- Runs a scenario: its statement if it has one, else its question. -/
def run (a : Assistant) (s : Scenario) : Action Outcome :=
  match s.entry? "sql", s.entry? "question" with
  | some statement, _ =>
    let text := statement.display
    Action.orElseIf Agent.isTold
      (do return .executed s.ticket text (← a.agent.runSql s.ticket text))
      fun f => return .refused s.ticket text f.message
  | none, some question => do
    return .answered (← a.agent.answerQuestion s.ticket (some question.display))
  | none, none => throw .scenarioEmpty

def ticketAt (profile : String) (position : Nat) : String :=
  profile ++ "-" ++ Double.padZeros 3 (toString position)

def runProfile (a : Option Assistant) (directory : Path) (profile : String) :
    Action (List Outcome) := do
  match a with
  | none => throw .noDependencies
  | some a =>
    let scenarios ← loadProfile directory profile
    scenarios.zipIdx.mapM fun (s, n) => run a (s.withTicket (ticketAt profile (n + 1)))

end Scenario

end TableTalk

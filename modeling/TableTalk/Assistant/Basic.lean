import TableTalk.Agent.Basic
import TableTalk.Log.Journal
import TableTalk.Settings.Load
import TableTalk.Source.Location

/-!
# The assistant

An assistant is a table with all that answers questions about it: an engine, an executor that may
ask a remote service first, a generator that may ask the language model first, and a journal.
`build` puts one together as the settings say.
-/

namespace TableTalk

structure Assistant where
  table : Table
  tableName : String
  engine : Engine
  executor : Executor
  generator : Generator
  journal : Log.Journal
  /-- Where events go, if anywhere. -/
  sink : Option (Event → Action Unit)

structure ModelClient where
  key : String
  timeout : Option Double
  deriving DecidableEq, Repr

namespace ModelSettings

def client (m : ModelSettings) : Action ModelClient := do
  if !(← get).model.installed then throw .modelPackageMissing
  match ← World.environmentValue m.keyVariable with
  | none => throw (.modelKeyMissing m.keyVariable)
  | some key => if key = "" then throw (.modelKeyMissing m.keyVariable) else return ⟨key, m.timeout⟩

def isReady (m : ModelSettings) : Action Bool :=
  Action.orElseIf Failure.isModelFailure (do let _ ← m.client; return true) fun _ => return false

end ModelSettings

namespace Assistant

/-- The language model to ask, if the settings want one that can be had. -/
def usableModel (s : Settings) : Action (Option ModelSettings) := do
  match s.model with
  | none => return none
  | some m => if m.enabled then return if ← m.isReady then some m else none else return none

/-- The generator: keyword rules, and the language model before them if it can be asked. -/
def buildGenerator (s : Settings) (table : Table) : Action Generator := do
  let rules := Generator.rules (Generation.RuleBook.standard s.source.tableName)
  match ← usableModel s with
  | none => return .only rules
  | some m => do
    let schema ← Action.ofExcept (table.describe s.source.tableName Table.defaultSamples)
    return .chain (.model ⟨m.model, schema, m.limit, m.maxTokens⟩) rules

/-- The executor: the engine, and the remote service before it if there is one. -/
def buildExecutor (s : Settings) (engine : Engine) : Executor :=
  match s.remote with
  | none => .engine engine
  | some base => .chain (.remote ⟨base, s.remoteTimeout⟩) (.engine engine)

def defaultLogs : String := "logs/query"

/-- The journal, in a directory that is made if it is missing. -/
def buildJournal (s : Settings) : Action Log.Journal := do
  let base ← World.expandHome (Path.parse ((s.paths.bind id).getD defaultLogs))
  World.makeDirectories base
  return ⟨base⟩

/-- Puts an assistant together, for the given table or the one that the settings name. -/
def build (s : Settings) (given : Option Table) : Action Assistant := do
  let table ←
    match given with
    | some t => pure t
    | none => do Source.loadTable false (← s.source.location) s.source.alternative
  let engine : Engine := ⟨table, s.strict⟩
  let generator ← buildGenerator s table
  let journal ← buildJournal s
  return {
    table
    tableName := s.source.tableName
    engine
    executor := buildExecutor s engine
    generator
    journal
    sink := some journal.append }

/-- The agent that answers questions, with events going to the assistant's sink. -/
def agent (a : Assistant) : Agent :=
  ⟨a.generator, a.executor, fun e => (a.sink.map (· e)).getD (return ())⟩

end Assistant

end TableTalk

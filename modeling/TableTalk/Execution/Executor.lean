import TableTalk.Json.Encoded
import TableTalk.Json.Reader
import TableTalk.Query.Evaluate
import TableTalk.Source.Location
import TableTalk.Table.ResultSet

/-!
# Executors of statements

An executor runs a statement and gives a result set. One kind evaluates it on a table at hand, with
the time taken; another posts it to a remote service; a chain of two lets the second try when the
first could not be answered remotely.
-/

namespace TableTalk

open Text

structure Engine where
  table : Table
  strict : Bool

namespace Engine

def thousand : Double := Double.ofUnits false (1000 * Double.unitsPerOne) 1

/-- Runs a statement and measures the time, in milliseconds. -/
def run (e : Engine) (statement : String) : Action ResultSet := do
  let started ← World.tick
  let answer ← Action.ofExcept (Query.evaluate e.strict e.table statement)
  let ended ← World.tick
  return ⟨answer.columns, answer.rows, (ended.sub started).mul thousand⟩

end Engine

/-- A service that runs statements, under a base address. -/
structure RemoteService where
  base : String
  timeout : Double
  deriving DecidableEq, Repr

namespace RemoteService

/-- The address that statements are posted to. -/
def endpoint (s : RemoteService) : String :=
  String.ofList ((s.base.toList.reverse.dropWhile (· = '/')).reverse) ++ "/api/sql/execute"

/-- The record in the body of a reply; a body that is none counts as empty. -/
def payload (reply : Web.Reply) : Except Failure Json :=
  match Json.decode? reply.body with
  | none => .ok (.record [])
  | some cs =>
    if Json.isTooDeep cs then .error .tooDeep
    else
      match Json.parseChars cs with
      | .ok (.record fields) => .ok (.record fields)
      | _ => .ok (.record [])

/-- What a reply says went wrong. -/
def complaint (reply : Web.Reply) (payload : Json) : String :=
  let error := payload.getD "error"
  let detail := payload.getD "detail"
  if !error.isFalsy then error.display
  else if !detail.isFalsy then detail.display
  else Web.reasonPhrase reply.status

def readReply (reply : Web.Reply) : Except Failure ResultSet := do
  let payload ← payload reply
  -- The field refuses by being there: it may be null.
  if !Web.isSuccess reply.status || (payload.get? "error").isSome then
    .error (.remoteRefused reply.status (complaint reply payload))
  else
    match payload.get? "columns" with
    | some (.list _) => ResultSet.ofJson payload
    | _ => .error (.remoteUnreadable reply.status)

def post (s : RemoteService) (statement : String) : Action Web.Reply := do
  let address := (← Action.ofExcept (Source.addressOf s.endpoint)).rooted
  return (← Source.ask "POST" address (some (.record [("query", .text statement)]))).1

def run (s : RemoteService) (statement : String) : Action ResultSet := do
  let reply ← Action.orElseIf Failure.isTransportFailure (s.post statement) fun f =>
    throw (.remoteUnreachable f.message)
  Action.ofExcept (readReply reply)

end RemoteService

inductive Executor where
  | engine (e : Engine)
  | remote (s : RemoteService)
  | chain (first second : Executor)
  | scripted (run : String → Action ResultSet)

namespace Executor

def run : Executor → String → Action ResultSet
  | engine e, statement => e.run statement
  | remote s, statement => s.run statement
  | chain first second, statement =>
    Action.orElseIf Failure.isRemoteFailure (first.run statement) fun _ => second.run statement
  | scripted run, statement => run statement

end Executor

end TableTalk

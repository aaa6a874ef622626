import TableTalk.Assistant.Basic
import TableTalk.Site.Check
import TableTalk.Source.Inspector

/-!
# The site

The site answers requests about one table. The assistant that it needs is put together when it is
first needed and kept from then on; as long as that fails, the requests that need it are told why.
A failure that nobody expects makes an answer without details.
-/

namespace TableTalk

namespace Site

inductive Content where
  | data (j : Json)
  | complaints (all : List Complaint)
  | text (s : String)

structure Response where
  status : Nat
  content : Content

namespace Response

def ok (j : Json) : Response := ⟨200, .data j⟩

/-- An answer that says what is wrong. -/
def detail (status : Nat) (s : String) : Response :=
  ⟨status, .data (.record [("detail", .text s)])⟩

/-- The answer to a request about the site itself. -/
def healthy : Response := ok (.record [("status", .text "ok")])

/-- The answer as it is given to a method: to `HEAD` without its content. -/
def forMethod (method : String) (r : Response) : Response :=
  if method = "HEAD" then { r with content := .text "" } else r

def serverError : Response := ⟨500, .text "Internal Server Error"⟩

def ofRefusal : Refusal → Response
  | .complaints all => ⟨422, .complaints all⟩
  | .unreadableBody => detail 400 "There was an error parsing the body"

end Response

inductive Wish where
  | health
  | columns
  | rows (offset limit : Int)
  | schema
  | generate (question : String)
  | execute (statement : String)
  | ask (question : String)
  deriving DecidableEq, Repr

def wishOf (e : Endpoint) (r : Request) : Except Refusal Wish :=
  match e with
  | .health => .ok .health
  | .columns => .ok .columns
  | .rows => (pageOf r).map fun (offset, limit) => .rows offset limit
  | .schema => .ok .schema
  | .generate => (r.bodyText "question").map .generate
  | .execute => (r.bodyText "query").map .execute
  | .ask => (r.bodyText "question").map .ask

/-- What is asked for, or the answer to a request that cannot be met. -/
def Request.wish (r : Request) : Except Response Wish :=
  match Endpoint.ofPath? r.path with
  | none => .error (.detail 404 "Not Found")
  | some e =>
    if e.method = r.method then (wishOf e r).mapError .ofRefusal
    else .error (.detail 405 "Method Not Allowed")

def rowsOf (t : Table) (offset limit : Int) : Json :=
  let rows := if (t.rowCount : Int) ≤ offset then [] else t.records offset (some limit)
  .record [
    ("columns", ResultSet.textList t.headers),
    ("rows", .list (rows.map Source.recordJson)),
    ("total", .int t.rowCount),
    ("offset", .int offset),
    ("limit", .int limit),
    ("has_more", .bool (offset + rows.length < (t.rowCount : Int)))]

/-- The origins of statements that an answer may name. -/
def knownSources : List String := ["llm", "rules"]

/-- An answer to a generated statement. -/
def generatedResponse (g : Generated) : Response :=
  if knownSources.contains g.source then
    .ok (.record [("sql", .text g.statement), ("source", .text g.source)])
  else .serverError

/-- An answer with a result, whose time must be finite. -/
def withFinite (d : Double) (r : Response) : Response :=
  if d.isFinite then r else .serverError

/-- An answer that has every field, null where there is nothing. -/
def answerRecord (a : Agent.Answer) : Json :=
  let v := a.verdict
  .record [
    ("ticket_id", .text a.ticket),
    ("status", .text v.status),
    ("question", Agent.textOrNull a.question),
    ("sql", Agent.textOrNull (v.generated?.map (·.statement))),
    ("source", Agent.textOrNull (v.generated?.map (·.source))),
    ("error", Agent.textOrNull v.error?),
    ("result", (v.result?.map ResultSet.toJson).getD .null)]

/-- A failure that is told with status 400. -/
def toldIf (p : Failure → Bool) (x : Action Response) : Action Response :=
  Action.orElseIf p x fun f => return .detail 400 f.message

/-- Meets a wish; `ticket` is the ticket of a question. -/
def meet (a : Assistant) (ticket : String) : Wish → Action Response
  | .health => return .healthy
  | .columns =>
    return .ok (.record [("columns", ResultSet.textList a.table.headers),
      ("table_name", .text a.tableName)])
  | .rows offset limit => return .ok (rowsOf a.table offset limit)
  | .schema => do
    let description ← Action.ofExcept (a.table.describe a.tableName Table.defaultSamples)
    return .ok (.record [("table_name", .text a.tableName), ("description", .text description)])
  | .generate question => toldIf Failure.isGenerationFailure do
    return generatedResponse (← a.generator.generate (some question))
  -- Never a remote service: it might be this site.
  | .execute statement => toldIf Failure.isColumnFailure do
    let result ← a.engine.run statement
    return withFinite result.elapsed (.ok result.toJson)
  | .ask question => do
    let answer ← a.agent.answerQuestion ticket (some question)
    let elapsed := (answer.verdict.result?.map (·.elapsed)).getD Double.zero
    return withFinite elapsed (.ok (answerRecord answer))

/-- Whether a failure says that the table cannot be had at present. -/
def isUnavailable (f : Failure) : Bool := f.isDataFailure || f.isSystemFailure

/-- The answer to an unexpected failure. -/
def orServerError (x : Action Response) : Action Response :=
  Action.orElseIf (fun _ => true) x fun _ => return .serverError

end Site

/-- The site with its settings and, once it is there, its assistant. -/
structure Site where
  settings : Settings
  given : Option Table
  /-- Takes the place of the generator that the settings call for. -/
  substitute : Option Generator
  assistant : Option Assistant

namespace Site

def title : String := "CSV Question-to-SQL Service"

def prepare (s : Site) : Action Assistant := do
  let a ← Assistant.build s.settings s.given
  return { a with generator := s.substitute.getD a.generator }

/-- The ticket that a wish is met under; only questions have one. -/
def ticketFor : Wish → Action String
  | .ask _ => do return "api-" ++ (← World.freshId)
  | _ => return ""

/-- Meets a wish with the assistant, which is put together if it is not there yet. -/
def serve (s : Site) (w : Wish) : Action (Response × Site) := do
  let ticket ← ticketFor w
  match s.assistant with
  | some a => return (← orServerError (meet a ticket w), s)
  | none =>
    match ← Action.attempt s.prepare with
    | .ok a => return (← orServerError (meet a ticket w), { s with assistant := some a })
    | .error f =>
      return (if isUnavailable f then .detail 503 f.message else .serverError, s)

def respond (s : Site) (r : Request) : Action (Response × Site) :=
  match r.wish with
  | .error response => return (response.forMethod r.method, s)
  | .ok .health => return (.healthy, s)
  | .ok w => s.serve w

end Site

end TableTalk

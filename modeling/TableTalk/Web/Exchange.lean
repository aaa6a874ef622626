import TableTalk.Json.Basic
import TableTalk.Web.ContentType
import TableTalk.Web.Encoding
import TableTalk.Web.Status

/-!
# Web exchanges

The web as seen from here: for each address the replies it gives, the n-th request getting the n-th
and the last one repeating, and the requests made so far. An address without replies has no route.
Packed bodies are unpacked as they come. `Reply.text` decodes a body as its content type says.
-/

namespace TableTalk.Web

open Text

structure Request where
  method : String
  address : String
  body : Option Json

structure Reply where
  status : Nat
  headers : List (String × String)
  body : List UInt8

/-- What comes of a request. -/
inductive Outcome where
  | reply (r : Reply)
  /-- The request fails, in a way that has a name. -/
  | broken (kind message : String)
  /-- The reply has a header that is not ASCII. No connection gives this, where headers come as
  bytes; it stands for a transport that is put in its place for a test and has them as texts. -/
  | garbled

namespace Reply

/-- The value of a header, whose name is looked up without regard to case; several values of one
name are joined. -/
def header? (r : Reply) (name : String) : Option String :=
  match (r.headers.filter fun (n, _) => lower n == name).map Prod.snd with
  | [] => none
  | values => some (join ", " values)

/-- Whether the headers are ASCII. -/
def hasPlainHeaders (r : Reply) : Bool :=
  r.headers.all fun (name, value) => (name ++ value).toList.all fun c => c.toNat < 0x80

def unpacked (r : Reply) : Except Deflate.Fault Reply := do
  let encodings := ((r.header? "content-encoding").map Encoding.list).getD []
  return { r with body := ← Encoding.decodeAll encodings r.body }

end Reply

/-- What the outcome of a request is once the headers are read and the body is unpacked. -/
def Outcome.received : Outcome → Outcome
  | .reply r =>
    if !r.hasPlainHeaders then .garbled
    else
      match r.unpacked with
      | .ok r => .reply r
      | .error fault => .broken "DecodingError" fault.message
  | outcome => outcome

structure Exchange where
  script : List (String × List Outcome)
  requests : List Request

namespace Exchange

def unrouted : Outcome := .broken "ConnectError" "no route to host"

def count (x : Exchange) (address : String) : Nat :=
  (x.requests.filter fun r => r.address == address).length

def next (x : Exchange) (address : String) : Outcome :=
  match x.script.lookup address with
  | none => unrouted
  | some outcomes => (outcomes[x.count address]?.or outcomes.getLast?).getD unrouted

def send (x : Exchange) (r : Request) : Outcome × Exchange :=
  ((x.next r.address).received, { x with requests := x.requests ++ [r] })

end Exchange

namespace Reply

/-- Why a body is no text. -/
inductive TextFault where
  /-- The parameters of the content type make no sense. -/
  | contentType
  | charset (fault : Charset.Fault)

/-- The character set of the body, UTF-8 where none is named that is known. -/
def charset (r : Reply) : Except TextFault Charset :=
  match r.header? "content-type" with
  | none => .ok .utf8
  | some kind =>
    match ContentType.charsetLabel? kind with
    | none => .error .contentType
    | some label => .ok ((label.bind Charset.find?).getD .utf8)

def text (r : Reply) : Except TextFault String :=
  if r.body.isEmpty then .ok ""
  else do
    let cs ← ((← r.charset).decode r.body).mapError .charset
    return String.ofList cs

end Reply

end TableTalk.Web

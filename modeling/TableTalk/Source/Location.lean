import TableTalk.Csv.Records
import TableTalk.Web.Reference
import TableTalk.World.Basic

/-!
# Locations of CSV text

A location is a path or a web address. `readCsvText` fetches the text there: a file in UTF-8 without
its byte-order mark and with line feeds for all line endings, a web page as its server sends it. A
client of our own follows redirects, a limited number of them; one that is handed in does not.
`loadTable` takes the table from a location or, if that fails, from an alternative one. Whatever
goes wrong with the last location tried is reported with the locations.
-/

namespace TableTalk.Source

open Text Web

/-- Whether a location is a web address. -/
def isUrl (location : String) : Bool :=
  let low := lowerChars location.toList
  "http://".toList.isPrefixOf low || "https://".toList.isPrefixOf low

def readCsvFile (location : String) : Action String := do
  let path ← World.expandHome (Path.parse location)
  if ← World.pathExists path then World.readText true path
  else throw (.missingTable path.text)

/-- The most redirects that are followed. -/
def redirectLimit : Nat := 20

def addressOf (location : String) : Except Failure Address :=
  (Address.parse location).mapError fun fault => .badAddress fault.message

/-- Where a reply sends the client on to, if it does. -/
def onward? (address : Address) (reply : Reply) : Except Failure (Option Address) :=
  match reply.header? "location" with
  | none => .ok none
  | some location =>
    if isRedirect reply.status then
      match address.follow location with
      | .ok next => .ok (some next)
      | .error (.location fault) =>
        .error (.transport "RemoteProtocolError"
          ("Invalid URL in location header: " ++ fault.message ++ "."))
      | .error (.target fault) => .error (.badAddress fault.message)
      | .error (.host fault) => .error (.badName fault)
    else .ok none

/-- Whether a text has something in front of a colon, and no slash there. -/
def namesScheme (s : String) : Bool :=
  match Address.cutBefore ['/', ':'] s.toList with
  | (_ :: _, ':' :: _) => true
  | _ => false

/-- Sends a request. The reply comes with where it sends the client on to; one to an address without
a scheme cannot be used. -/
def ask (method : String) (address : Address) (body : Option Json) :
    Action (Reply × Option Address) := do
  let reply ← World.send ⟨method, address.text, body⟩
  if !namesScheme address.text then throw (.noScheme address.text)
  return (reply, ← Action.ofExcept (onward? address reply))

/-- Gets a page, following redirects while `redirects` lasts. -/
def fetch (address : Address) : (redirects : Nat) → Action (Address × Reply)
  | 0 => throw (.transport "TooManyRedirects" "Exceeded maximum allowed redirects.")
  | redirects + 1 => do
    let (reply, onward) ← ask "GET" address none
    match onward with
    | some next => fetch next redirects
    | none => return (address, reply)

/-- What it means for a reader that a body is no text. -/
def textFailure : Reply.TextFault → Failure
  | .contentType => .wrongKind
  | .charset .undecodable => .unreadableBody
  | .charset .notAscii => .undecodable
  | .charset .noBytes => .wrongKind
  | .charset .noText => .noText

def download (ownClient : Bool) (location : String) : Action String := do
  let address := (← Action.ofExcept (addressOf location)).rooted
  let (address, reply) ←
    if ownClient then do
      let (reply, _) ← ask "GET" address none
      pure (address, reply)
    else fetch address (redirectLimit + 1)
  if isSuccess reply.status then Action.ofExcept (reply.text.mapError textFailure)
  else throw (.badStatus (statusReport reply.status address.text (reply.header? "location")))

/-- The text at a location; `ownClient` says that a client was handed in. -/
def readCsvText (ownClient : Bool) (location : String) : Action String :=
  if isUrl location then download ownClient location else readCsvFile location

def readTable (ownClient : Bool) (location : String) : Action Table := do
  Action.ofExcept (Csv.parse (← readCsvText ownClient location))

/-- Loads a table from a location or, failing that, from the alternative. -/
def loadTable (ownClient : Bool) (primary : String) (alternative : Option String) : Action Table :=
  Action.orElseIf Failure.isSourceFailure (readTable ownClient primary) fun f =>
    match alternative with
    | none => throw (.unreadableTable primary none f.message)
    | some other =>
      Action.orElseIf Failure.isSourceFailure (readTable ownClient other) fun f =>
        throw (.unreadableTable primary (some other) f.message)

end TableTalk.Source

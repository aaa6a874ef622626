import TableTalk.Json.Reader
import TableTalk.Text.Blank
import TableTalk.Text.Lower
import TableTalk.Text.Search
import TableTalk.Web.Address

/-!
# Requests to the site

A request names a method and a path, and may carry fields in its query and a body. `Request.sentTo`
makes the request that arrives when one is sent to an address. The site answers at a handful of
endpoints. A path that ends in slashes leads to the endpoint without them.
-/

namespace TableTalk.Site

open Text

structure Request where
  method : String
  path : String
  query : List (String × String)
  body : String
  contentType : Option String
  deriving DecidableEq, Repr

inductive Endpoint where
  | health
  | columns
  | rows
  | schema
  | generate
  | execute
  | ask
  deriving DecidableEq, Repr

namespace Endpoint

def all : List Endpoint := [health, columns, rows, schema, generate, execute, ask]

def path : Endpoint → String
  | health => "/api/health"
  | columns => "/api/dataset/columns"
  | rows => "/api/dataset/rows"
  | schema => "/api/dataset/schema"
  | generate => "/api/sql/generate"
  | execute => "/api/sql/execute"
  | ask => "/api/ask"

def method : Endpoint → String
  | health => "GET"
  | columns => "GET"
  | rows => "GET"
  | schema => "GET"
  | generate => "POST"
  | execute => "POST"
  | ask => "POST"

/-- The endpoint at exactly this path, but for a line feed at its end. -/
def at? (path : String) : Option Endpoint :=
  all.find? fun e => e.path == path || e.path ++ "\n" == path

def ofPath? (path : String) : Option Endpoint :=
  let bare := (path.toList.reverse.dropWhile (· = '/')).reverse
  (at? path).or (at? (String.ofList bare))

end Endpoint

/-- A part of a query as text; a plus sign stands for a blank. -/
def queryText (cs : List Char) : String :=
  percentDecode (cs.map fun c => if c = '+' then ' ' else c)

def queryFields (cs : List Char) : List (String × String) :=
  ((splitOn '&' cs).filter fun part => !part.isEmpty).map fun part =>
    match cutAt? ['='] part with
    | some (name, value) => (queryText name, queryText value)
    | none => (queryText part, "")

namespace Request

/-- The request that arrives when one is sent to an address, which may be any path on the site. The
client works out its dots and undoes its percent escapes, which the site does again. The query of
the address counts if no fields are given beside it. -/
def sentTo (method address : String) (fields : Option (List (String × String))) (body : String)
    (contentType : Option String) : Except Web.AddressFault Request := do
  let a := (← Web.Address.parse address).rooted
  let path := if a.path = "" then "/" else Web.Address.dropDots a.path
  return {
    method
    path := percentDecode (percentDecode path.toList).toList
    query := fields.getD (queryFields (a.query.getD "").toList)
    body
    contentType }

/-- The value of a field of the query; of several the last one counts. -/
def field? (r : Request) (name : String) : Option String :=
  r.query.reverse.lookup name

/-- Whether the body is JSON by its content type, or by the lack of one. -/
def isJson (r : Request) : Bool :=
  match r.contentType with
  | none => true
  | some kind =>
    let full := lowerChars (trimChars (kind.toList.takeWhile (· ≠ ';')))
    kind.isEmpty ||
      match splitOn '/' full with
      | [main, sub] =>
        main == "application".toList && (sub == "json".toList || "+json".toList.isSuffixOf sub)
      | _ => false

end Request

end TableTalk.Site

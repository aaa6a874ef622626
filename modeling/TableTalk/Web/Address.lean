import TableTalk.Text.Whole
import TableTalk.Web.Host

/-!
# Web addresses

An address is a scheme, the name of a user, a host, a port, a path, a query and a fragment. In its
normal form scheme and host are in lower case, the usual port of the scheme is left out, the dots of
the path are worked out and characters that may not stand in an address are percent-encoded. `parse`
reads a text as an address in normal form and `text` writes it.
-/

namespace TableTalk.Web

open Text

/-- Why a text is no web address. -/
inductive AddressFault where
  | tooLong
  /-- It holds a control character, at a place counted from zero. -/
  | unprintable (c : Char) (place : Nat)
  | badHost (host : String) (fault : HostFault)
  | badPort (port : String)
  /-- The path does not start with a slash though there is a host. -/
  | unrootedPath
  /-- The path starts with two slashes though there is no host. -/
  | doubleSlash
  /-- The path starts with a colon. -/
  | leadingColon
  deriving DecidableEq, Repr

def AddressFault.message : AddressFault → String
  | tooLong => "URL too long"
  | unprintable c place =>
    "Invalid non-printable ASCII character in URL, " ++ quoted (String.singleton c)
      ++ " at position " ++ toString place ++ "."
  | badHost host .badBytes => "Invalid IPv4 address: " ++ quoted host
  | badHost host .badGroups => "Invalid IPv6 address: " ++ quoted host
  | badHost host (.badName _) => "Invalid IDNA hostname: " ++ quoted host
  | badPort port => "Invalid port: " ++ quoted port
  | unrootedPath => "For absolute URLs, path must be empty or begin with '/'"
  | doubleSlash => "Relative URLs cannot have a path starting with '//'"
  | leadingColon => "Relative URLs cannot have a path starting with ':'"

structure Address where
  scheme : String
  /-- The name of a user, perhaps with a password after a colon. -/
  user : String
  host : String
  port : Option Int
  path : String
  query : Option String
  fragment : Option String
  deriving DecidableEq, Repr

namespace Address

/-- The visible characters that are percent-encoded in a query. -/
def queryStops : List Char := ['"', '#', '<', '>']

/-- The visible characters that are percent-encoded in a path. -/
def pathStops : List Char := queryStops ++ ['?', '\x60', '\x7b', '\x7d']

/-- The visible characters that are percent-encoded in the name of a user. -/
def userStops : List Char := pathStops ++ ['/', ';', '=', '@', '[', '\\', ']', '^', '|']

/-- The visible characters that are percent-encoded in a fragment. -/
def fragmentStops : List Char := ['"', '<', '>', '\x60']

/-- Cuts a text at the first of some characters; the second part starts with that character. -/
def cutBefore (stops : List Char) (cs : List Char) : List Char × List Char :=
  (cs.takeWhile fun c => !stops.contains c, cs.dropWhile fun c => !stops.contains c)

/-- The scheme in front of a text, if there is one; it may be empty. -/
def takeScheme? (cs : List Char) : Option (List Char × List Char) :=
  match cutBefore [':', '/', '?', '#'] cs with
  | (scheme, ':' :: rest) =>
    let isPart (c : Char) : Bool := c.isAlphanum || c == '+' || c == '-' || c == '.'
    if scheme.all isPart ∧ scheme.head?.all Char.isAlpha then some (scheme, rest) else none
  | _ => none

/-- A text cut into the parts of an address, as they are written. -/
structure Draft where
  scheme : List Char
  authority : List Char
  path : List Char
  query : Option (List Char)
  fragment : Option (List Char)

/-- Cuts a text into the parts of an address. -/
def Draft.ofChars (cs : List Char) : Draft :=
  let (scheme, rest) := (takeScheme? cs).getD ([], cs)
  let (authority, rest) :=
    match rest with
    | '/' :: '/' :: more => cutBefore ['/', '?', '#'] more
    | _ => ([], rest)
  let (path, rest) := cutBefore ['?', '#'] rest
  let (query, rest) :=
    match rest with
    | '?' :: more => let (query, rest) := cutBefore ['#'] more; (some query, rest)
    | _ => (none, rest)
  ⟨scheme, authority, path, query, if rest.isEmpty then none else some (rest.drop 1)⟩

/-- The name of a user before the last at sign of an authority, and what follows it. -/
def takeUser (cs : List Char) : List Char × List Char :=
  let back := cs.reverse
  let host := (back.takeWhile (· ≠ '@')).reverse
  (((back.dropWhile (· ≠ '@')).drop 1).reverse, host)

/-- The host at the front of the rest of an authority, and the port after it. A host in brackets
goes on to the last closing one. -/
def takeHost (cs : List Char) : List Char × List Char :=
  let afterBracket := cs.reverse.takeWhile (· ≠ ']')
  let (host, rest) :=
    if cs.head? = some '[' ∧ cs.contains ']' then
      (cs.take (cs.length - afterBracket.length), afterBracket.reverse)
    else cutBefore [':'] cs
  match rest with
  | ':' :: port => (host, port)
  | port => (host, port)

/-- The port that a scheme has unless another is named. -/
def usualPort? (scheme : String) : Option Int :=
  [("ftp", 21), ("http", 80), ("https", 443), ("ws", 80), ("wss", 443)].lookup scheme

/-- A port, unless it is the usual one of the scheme. -/
def unlessUsual (scheme : String) (port : Option Int) : Option Int :=
  port.filter fun p => usualPort? scheme ≠ some p

/-- The number of a port; none for an empty text. -/
def readPort (cs : List Char) : Except AddressFault (Option Int) :=
  if cs.isEmpty then .ok none
  else
    match readLimited? (String.ofList cs) with
    | some n => .ok (some n)
    | none => .error (.badPort (String.ofList cs))

def segments (path : String) : List String :=
  (splitOn '/' path.toList).map String.ofList

/-- A path without single dots, and without double dots and the segments before them. -/
def dropDots (path : String) : String :=
  let step (done : List String) (s : String) :=
    if s = "." then done
    else if s = ".." then (if done = [""] then done else done.dropLast)
    else done ++ [s]
  join "/" ((segments path).foldl step [])

def authority (a : Address) : String :=
  (if a.user = "" then "" else a.user ++ "@")
    ++ (if a.host.toList.contains ':' then "[" ++ a.host ++ "]" else a.host)
    ++ ((a.port.map fun p => ":" ++ toString p).getD "")

def text (a : Address) : String :=
  (if a.scheme = "" then "" else a.scheme ++ ":")
    ++ (if a.authority = "" then "" else "//" ++ a.authority)
    ++ a.path ++ ((a.query.map ("?" ++ ·)).getD "") ++ ((a.fragment.map ("#" ++ ·)).getD "")

/-- Refuses a path that does not fit the parts before it, and works out its dots. -/
def settlePath (a : Address) : Except AddressFault Address :=
  let cs := a.path.toList
  if a.authority ≠ "" ∧ a.path ≠ "" ∧ cs.head? ≠ some '/' then .error .unrootedPath
  else if a.scheme = "" ∧ a.authority = "" then
    if ['/', '/'].isPrefixOf cs then .error .doubleSlash
    else if [':'].isPrefixOf cs then .error .leadingColon
    else .ok a
  else .ok { a with path := dropDots a.path }

def longest : Nat := 65536

/-- Refuses texts that no part of an address may be. -/
def checkChars (cs : List Char) : Except AddressFault Unit :=
  let isControl (c : Char) : Bool := c.toNat < 32 || c.toNat == 127
  if longest < cs.length then .error .tooLong
  else
    match cs.find? isControl with
    | some c => .error (.unprintable c (cs.takeWhile fun d => !isControl d).length)
    | none => .ok ()

/-- Reads a text as an address in normal form. The usual port is left out only if the scheme is
written in lower case. -/
def parse (s : String) : Except AddressFault Address := do
  checkChars s.toList
  let draft := Draft.ofChars s.toList
  let scheme := String.ofList draft.scheme
  let (user, rest) := takeUser draft.authority
  let (hostChars, portChars) := takeHost rest
  let host ← (hostOf hostChars).mapError (.badHost (String.ofList hostChars))
  let port ← readPort portChars
  let a ← settlePath {
    scheme := String.ofList (draft.scheme.map Char.toLower)
    user := percentEncode userStops (String.ofList user)
    host
    port := unlessUsual scheme port
    path := String.ofList draft.path
    query := draft.query.map fun q => percentEncode queryStops (String.ofList q)
    fragment := draft.fragment.map fun f => percentEncode fragmentStops (String.ofList f) }
  return { a with path := percentEncode pathStops a.path }

/-- Whether an address names where requests are sent. -/
def isAbsolute (a : Address) : Bool :=
  a.scheme ≠ "" && a.host ≠ ""

/-- The address that requests are sent to: one that is not absolute is taken as a path from the
root. -/
def rooted (a : Address) : Address :=
  if a.isAbsolute then a
  else
    let path := String.ofList ('/' :: a.path.toList.dropWhile (· = '/'))
    { scheme := "", user := "", host := "", port := none, path, query := a.query, fragment := none }

/-- The address brought into normal form once more: percent escapes in the name of a host are put in
lower case and a port may now be the usual one. -/
def settle (a : Address) : Except AddressFault Address :=
  let host :=
    if a.host.toList.contains ':' then a.host else String.ofList (a.host.toList.map Char.toLower)
  settlePath { a with host, port := unlessUsual a.scheme a.port }

/-- The address with the fragment that a text stands for. -/
def withFragment (a : Address) (fragment : List Char) : Except AddressFault Address := do
  checkChars fragment
  let b ← a.settle
  return { b with fragment := some (percentEncode fragmentStops (String.ofList fragment)) }

end Address

end TableTalk.Web

import TableTalk.Web.Address

/-!
# References

A location may be written as a reference: what it leaves out is taken from the address that it was
found at. `joined` is the text of the address that a reference means there, and `Address.follow` the
address that a client goes to when it is sent on from one address to a location.
-/

namespace TableTalk.Web

open Text

/-- The parts of a reference. The parameters of a path are what follows a semicolon in its last
segment; an empty part counts as left out. -/
structure Reference where
  scheme : String
  authority : String
  path : String
  parameters : String
  query : String
  fragment : String
  deriving DecidableEq, Repr

namespace Reference

/-- The schemes under which a reference may leave out parts. -/
def relativeSchemes : List String := [
  "", "ftp", "http", "gopher", "nntp", "imap", "wais", "file", "https", "shttp", "mms", "prospero",
  "rtsp", "rtsps", "rtspu", "sftp", "svn", "svn+ssh", "ws", "wss"]

/-- The schemes whose addresses name an authority. -/
def authoritySchemes : List String := [
  "", "ftp", "http", "gopher", "nntp", "telnet", "imap", "wais", "file", "mms", "https", "shttp",
  "snews", "prospero", "rtsp", "rtsps", "rtspu", "rsync", "svn", "svn+ssh", "sftp", "nfs", "git",
  "git+ssh", "ws", "wss"]

/-- The schemes whose paths may have parameters. -/
def parameterSchemes : List String := [
  "", "ftp", "hdl", "prospero", "http", "imap", "https", "shttp", "rtsp", "rtsps", "rtspu", "sip",
  "sips", "mms", "sftp", "tel"]

/-- A path without the parameters of its last segment, and those. -/
def splitParameters (cs : List Char) : List Char × List Char :=
  let last := (cs.reverse.takeWhile (· ≠ '/')).reverse
  let before := cs.take (cs.length - last.length)
  (before ++ last.takeWhile (· ≠ ';'), (last.dropWhile (· ≠ ';')).drop 1)

/-- Takes a reference apart; one without a scheme gets the one that is given. -/
def ofText (scheme : String) (s : String) : Reference :=
  let draft := Address.Draft.ofChars s.toList
  let scheme :=
    if draft.scheme.isEmpty then scheme else String.ofList (draft.scheme.map Char.toLower)
  let (path, parameters) :=
    if parameterSchemes.contains scheme then splitParameters draft.path else (draft.path, [])
  { scheme
    authority := String.ofList draft.authority
    path := String.ofList path
    parameters := String.ofList parameters
    query := String.ofList (draft.query.getD [])
    fragment := String.ofList (draft.fragment.getD []) }

def text (r : Reference) : String :=
  let path := r.path ++ (if r.parameters = "" then "" else ";" ++ r.parameters)
  let isHeaded := r.authority ≠ "" ∨ (r.scheme ≠ "" ∧ authoritySchemes.contains r.scheme)
    ∨ ['/', '/'].isPrefixOf path.toList
  let rooted := if path = "" ∨ ['/'].isPrefixOf path.toList then path else "/" ++ path
  (if r.scheme = "" then "" else r.scheme ++ ":")
    ++ (if isHeaded then "//" ++ r.authority ++ rooted else path)
    ++ (if r.query = "" then "" else "?" ++ r.query)
    ++ (if r.fragment = "" then "" else "#" ++ r.fragment)

/-- Segments with single and double dots worked out; the path of a directory ends in a slash. -/
def workOutDots (segments : List String) : List String :=
  let step (done : List String) (s : String) :=
    if s = ".." then done.dropLast else if s = "." then done else done ++ [s]
  let done := segments.foldl step []
  if segments.getLast? = some "." ∨ segments.getLast? = some ".." then done ++ [""] else done

/-- The segments without those that are empty, the first and the last one apart. -/
def dropEmptyInside (segments : List String) : List String :=
  segments.take 1 ++ ((segments.drop 1).dropLast.filter (· ≠ ""))
    ++ (if segments.length < 2 then [] else segments.getLast?.toList)

def joinPaths (base path : String) : String :=
  let own := Address.segments path
  let start := Address.segments base
  let whole :=
    if ['/'].isPrefixOf path.toList then own
    else dropEmptyInside ((if start.getLast? = some "" then start else start.dropLast) ++ own)
  let joined := join "/" (workOutDots whole)
  if joined = "" then "/" else joined

/-- The text of the address that the reference `reference` means at the address `base`. -/
def joined (base reference : String) : String :=
  let b := ofText "" base
  let r := ofText b.scheme reference
  if reference = "" then base
  else if r.scheme ≠ b.scheme ∨ !relativeSchemes.contains r.scheme then reference
  else if authoritySchemes.contains r.scheme ∧ r.authority ≠ "" then r.text
  else
    let r := if authoritySchemes.contains r.scheme then { r with authority := b.authority } else r
    if r.path = "" ∧ r.parameters = "" then
      { r with
        path := b.path
        parameters := b.parameters
        query := if r.query = "" then b.query else r.query }.text
    else { r with path := joinPaths b.path r.path }.text

end Reference

/-- Why a client cannot be sent on. -/
inductive FollowFault where
  /-- The location is no address. -/
  | location (fault : AddressFault)
  /-- What the location leads to is no address. -/
  | target (fault : AddressFault)
  /-- The name of a host cannot be read back. -/
  | host (fault : DomainName.LabelFault)
  deriving DecidableEq, Repr

namespace Address

def checkHost (host : String) : Except FollowFault Unit :=
  if DomainName.wireMark.isPrefixOf host.toList then
    (DomainName.check host.toList).mapError .host
  else .ok ()

/-- The address that a location leads to from `a`. A location with a scheme but no host has the host
of `a`, one that is not absolute is a reference, and the fragment of `a` stays unless the location
has one of its own. -/
def follow (a : Address) (location : String) : Except FollowFault Address := do
  let b ← (parse location).mapError .location
  if b.scheme ≠ "" then checkHost b.host
  let b ←
    if b.scheme ≠ "" ∧ b.host = "" then do
      checkHost a.host
      { b with host := a.host }.settle.mapError .target
    else pure b
  let b ←
    if b.isAbsolute then pure b
    else (parse (Reference.joined a.text b.text)).mapError .target
  let fragment := percentDecode (a.fragment.getD "").toList
  let b ←
    if fragment ≠ "" ∧ b.fragment.getD "" = "" then
      (b.withFragment fragment.toList).mapError .target
    else pure b
  checkHost b.host
  checkHost a.host
  return b

end Address

end TableTalk.Web

import TableTalk.Json.Reader
import TableTalk.Json.Writer
import TableTalk.Log.FileName
import TableTalk.World.Basic

/-!
# The journal

A journal keeps the events of every ticket in a file of its own under a directory, one record to a
line. In a record ticket, event and the time come first, then what the event carries; null values
are left out, and so are fields that would hide one of the first three. A record that cannot be
written to its end leaves a line without an end in the file. The names of the files are remembered
in a cache of the world; a ticket whose name was forgotten gets a new file.
-/

namespace TableTalk.Log

open Text

/-- The fields that every record has. -/
def fixedFields : List String := ["ticket_id", "event", "timestamp"]

def isNull : Json → Bool
  | .null => true
  | _ => false

def record (e : Event) (stamp : String) : List (String × Json) :=
  [("ticket_id", .text e.ticket), ("event", .text e.name), ("timestamp", .text stamp)]
    ++ e.payload.filter fun (n, v) => !isNull v && !fixedFields.contains n

structure Journal where
  base : Path
  deriving DecidableEq, Repr

namespace Journal

/-- The file of a ticket. A new name is made from the stamp, after the directory for it was made. -/
def fileOf (j : Journal) (ticket : String) (stamp : Option String) : Action Path := do
  let expanded ← World.expandHome j.base
  let base := Path.resolve (← get).cwd expanded
  let key : Key := ⟨base.text, ticket⟩
  -- The directory of a known name is not looked after again, even if it is gone.
  unless (← get).logNames.knows key do World.makeDirectories base
  let w ← get
  let (name, logNames) :=
    w.logNames.use w.logNamesKept key (fileName w.now stamp ticket)
  set { w with logNames }
  return ⟨base.root, base.names ++ [name]⟩

/-- Why a record could not be written, as a failure. -/
def writeFailure : Json.WriteError → Failure
  | .tooDeep => .tooDeep
  | .hugeInteger digits => .hugeNumeral digits

/-- Adds the record of an event to the file of its ticket. -/
def append (j : Journal) (e : Event) : Action Unit := do
  let stamp := (← get).now.stamp
  let file ← j.fileOf e.ticket (some stamp)
  let draft := (Json.record (record e stamp)).draft Json.writingLimit
  match draft.error with
  | none => World.appendText file (String.ofList draft.text ++ "\n")
  | some error =>
    -- The bits that were written before are in the file by then.
    World.appendText file (String.ofList draft.text)
    throw (writeFailure error)

def readRecord (line : List Char) : Except Failure Json :=
  if Json.isTooDeep line then .error .tooDeep
  else (Json.parseChars line).mapError fun
    | .malformed _ => .badRecord
    | .hugeInteger digits => .hugeNumeral digits

/-- The records of a ticket in the order in which they were added. -/
def records (j : Journal) (ticket : String) : Action (List Json) := do
  let file ← j.fileOf ticket none
  if ← World.pathExists file then
    let text ← World.readText false file
    let lines := (splitOn '\n' text.toList).filter fun line => !allBlank line
    Action.ofExcept (lines.mapM readRecord)
  else return []

end Journal

end TableTalk.Log

import TableTalk.Calendar.Basic
import TableTalk.Failure
import TableTalk.Log.NameCache
import TableTalk.Model.Service
import TableTalk.Text.Utf8
import TableTalk.Web.Exchange
import TableTalk.World.Files

/-!
# The world around a run

A `World` is all that a run reads and changes: the files, the environment, the clock, a stopwatch, a
counter for identifiers, the web, the language model, the names of log files given so far, the lines
that are still to be read and those that were printed. An `Action` is a computation over a world
that may fail; what it changed before it failed stays changed.
-/

namespace TableTalk

open Text

structure Event where
  ticket : String
  name : String
  payload : List (String × Json)
  deriving Inhabited

/-- What is put on the screen: a whole line, or a prompt that a line is read after. -/
inductive Shown where
  | line (text : String)
  | prompt (text : String)
  deriving DecidableEq, Repr

def Shown.text : Shown → String
  | line s => s ++ "\n"
  | prompt s => s

structure World where
  cwd : Path
  files : Files
  environment : List (String × String)
  /-- The home directories of known people. -/
  homes : List (String × String)
  /-- The moment, at Greenwich. -/
  now : Moment
  /-- The readings of the stopwatch, in seconds, taken in turn and over again. -/
  ticks : List Double
  ticksTaken : Nat
  idsGiven : Nat
  web : Web.Exchange
  model : Model.Service
  logNames : Log.NameCache
  logNamesKept : Nat
  /-- Events that reached the trail of a run. -/
  trail : List Event
  /-- Lines still to be read. -/
  input : List String
  /-- What was put on the screen so far. -/
  screen : List Shown

abbrev Action := ExceptT Failure (StateM World)

namespace Action

/-- The outcome of an action as a value. -/
def attempt {α : Type} (x : Action α) : Action (Except Failure α) :=
  fun w => let (r, w') := x w; (.ok r, w')

/-- Takes over with `y` if `x` fails for a cause that `p` accepts. -/
def orElseIf {α : Type} (p : Failure → Bool) (x : Action α) (y : Failure → Action α) : Action α :=
  fun w =>
    match x w with
    | (.ok a, w') => (.ok a, w')
    -- What `x` did before it failed stays done.
    | (.error f, w') => if p f then y f w' else (.error f, w')

/-- The value of a computation that does not look at the world. -/
def ofExcept {α : Type} (r : Except Failure α) : Action α :=
  fun w => (r, w)

/-- A fault of the file system on a path, as a failure. -/
def onPath {α : Type} (p : Path) (r : Except PathFault α) : Action α :=
  ofExcept (r.mapError fun fault => .system fault p.text)

end Action

namespace World

open TableTalk.Action

def environmentValue (name : String) : Action (Option String) := do
  return (← get).environment.lookup name

/-- The path with a leading tilde name replaced by the home directory it stands for. -/
def expandHome (p : Path) : Action Path := do
  let w ← get
  match p.isAbsolute, p.names with
  | false, first :: rest =>
    if ['~'].isPrefixOf first.toList then
      let home := if first = "~" then w.environment.lookup "HOME"
        else w.homes.lookup (String.ofList (first.toList.drop 1))
      match home with
      | none => throw .unknownHome
      | some h =>
        if ['~'].isPrefixOf h.toList then throw .unknownHome
        let base := Path.parse (if h.toList.all (· == '/') then "/" else h)
        return ⟨base.root, base.names ++ rest⟩
    else return p
  | _, _ => return p

def pathExists (p : Path) : Action Bool := do
  let w ← get
  onPath p (w.files.exists? w.cwd p)

def readBytes (p : Path) : Action (List UInt8) := do
  let w ← get
  onPath p (w.files.read w.cwd p)

/-- The text of a file in UTF-8, with line feeds for all line endings. A byte-order mark at its
start is dropped on demand. -/
def readText (dropsMark : Bool) (p : Path) : Action String := do
  let bytes ← readBytes p
  match decodeUtf8? (if dropsMark then dropMark bytes else bytes) with
  | some cs => return String.ofList (unifyNewlines cs)
  | none => throw .undecodable

def appendText (p : Path) (s : String) : Action Unit := do
  let w ← get
  let files ← onPath p (w.files.update w.cwd p (· ++ encodeUtf8 s.toList))
  set { w with files }

def makeDirectories (p : Path) : Action Unit := do
  let w ← get
  let files ← onPath p (w.files.makeDirectories w.cwd p)
  set { w with files }

/-- The next reading of the stopwatch, in seconds. -/
def tick : Action Double := do
  let w ← get
  let reading := (w.ticks[w.ticksTaken % w.ticks.length]?).getD Double.zero
  set { w with ticksTaken := w.ticksTaken + 1 }
  return reading

/-- An identifier that was not given before: its number in eight hexadecimal digits. -/
def freshId : Action String := do
  let w ← get
  set { w with idsGiven := w.idsGiven + 1 }
  return String.ofList (hexDigits 8 (w.idsGiven + 1))

def send (r : Web.Request) : Action Web.Reply := do
  let w ← get
  let (outcome, web) := w.web.send r
  set { w with web }
  match outcome with
  | .reply reply => return reply
  | .broken kind message => throw (.transport kind message)
  | .garbled => throw .badHeader

def callModel (c : Model.Call) : Action Model.Reply := do
  let w ← get
  let (outcome, model) := w.model.call c
  set { w with model }
  match outcome with
  | .reply reply => return reply
  | .broken message => throw (.modelCall message)

/-- Lets time pass, or turns the clock back. -/
def passTime (micros : Int) : Action Unit :=
  modify fun w => { w with now := Moment.ofMicros (w.now.toMicros + micros).toNat none }

def print (line : String) : Action Unit :=
  modify fun w => { w with screen := w.screen ++ [.line line] }

/-- Shows a prompt and reads a line, if there is one left. -/
def readLine (prompt : String) : Action (Option String) := do
  let w ← get
  let screen := w.screen ++ [.prompt prompt]
  match w.input with
  | [] => set { w with screen }; return none
  | line :: rest => set { w with screen, input := rest }; return some line

end World

end TableTalk

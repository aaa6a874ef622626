import Std.Time.DateTime.Timestamp
import TableTalk.CommandLine.Program

/-!
# The command line

`main` calls the program that its first word names with the words that follow. The files and the
environment variables that the call and its settings name are read into a world before the program
runs in it; what the program put on the screen is printed, and what it added to files is written, as
soon as it has run. A chat runs line by line. There is no web and no language model in this world,
so the programs do without them.
-/

namespace TableTalk.CommandLine

open Text

/-- The files that a call may make a program read before its settings are known. -/
def filesOfCall (c : Choices) : List String :=
  let profile := (c.text? "--profile").getD "demo"
  [(c.text? "--config").getD Program.defaultConfig,
    (c.text? "--scenarios").getD "assets/scenarios" ++ "/" ++ profile ++ ".yaml"]
    ++ c.operand.toList ++ (c.text? "--fallback").toList

/-- The environment variables that settings name. -/
def variablesOf (s : Settings) : List String :=
  s.source.pathVariable.toList ++ (s.model.map (·.keyVariable)).toList

/-- Puts what is under a name in the file system into a world. -/
def addFile (w : World) (name : String) : IO World := do
  if name.toList.contains '\x00' then return w
  let path := (← IO.currentDir) / name
  let place := (Path.resolve w.cwd (Path.parse name)).names
  if ← path.isDir then
    return { w with files := w.files.put place .directory }
  try
    let bytes := (← IO.FS.readBinFile path).toList
    return { w with files := w.files.plant place bytes }
  catch _ => return w

/-- Puts the value of an environment variable into a world. -/
def addVariable (w : World) (name : String) : IO World := do
  match ← IO.getEnv name with
  | some value => return { w with environment := w.environment ++ [(name, value)] }
  | none => return w

def present : IO Moment := do
  let micros := (← Std.Time.Timestamp.now).toNanosecondsSinceUnixEpoch.val.toNat / 1000
  let epoch : Moment := ⟨⟨1970, 1, 1⟩, 0, 0, 0, 0, none⟩
  return Moment.ofMicros (epoch.toMicros + micros) none

/-- A world at the present moment, with nothing in it but the way to the working directory. -/
def surroundings : IO World := do
  let cwd := Path.parse (← IO.currentDir).toString
  return {
    cwd
    files := (Files.mk []).makeDirectories cwd cwd |>.toOption.getD ⟨[]⟩
    environment := []
    homes := []
    now := ← present
    ticks := [Double.zero]
    ticksTaken := 0
    idsGiven := ← IO.rand 0 0xFFFFFFFE
    web := ⟨[], []⟩
    model := ⟨false, [], []⟩
    logNames := []
    logNamesKept := Log.NameCache.capacity
    trail := []
    input := []
    screen := [] }

/-- Writes the entries that a world has beyond an earlier one: new directories, and what files have
at their ends. -/
def writeChanges (before after : Files) : IO Unit :=
  after.entries.forM fun (place, entry) => do
    let path := "/" ++ join "/" place
    match entry, before.entries.lookup place with
    | .directory, none => IO.FS.createDirAll path
    | .file bytes, old =>
      let known := match old with | some (.file b) => b.length | _ => 0
      if known < bytes.length then
        let handle ← IO.FS.Handle.mk path .append
        handle.write (ByteArray.mk (bytes.drop known).toArray)
    | _, _ => return ()

/-- Performs an action in a world, and shows and writes what came of it. -/
def perform {α : Type} (x : Action α) (w : World) : IO (Except Failure α × World) := do
  let (outcome, after) := x w
  let output ← IO.getStdout
  output.putStr (String.join (after.screen.map Shown.text))
  output.flush
  writeChanges w.files after.files
  if let .error f := outcome then IO.eprintln f.message
  return (outcome, { after with screen := [] })

/-- The world for a call, with the files and environment variables that it needs. -/
def worldFor (p : Program) (c : Choices) : IO World := do
  let w ← (filesOfCall c).foldlM addFile (← addVariable (← surroundings) "HOME")
  if p = .inspect then return w
  match (Program.chosenSettings c) w with
  | (.error _, _) => return w
  | (.ok s, _) =>
    let w ← (variablesOf s).foldlM addVariable w
    let location := ((s.source.location w).1.toOption).toList
    (location ++ s.source.alternative.toList).foldlM addFile w

/-- Handles the lines of a chat until it ends. -/
partial def converse (s : Chat.Session) (number : Nat) (w : World) : IO UInt32 := do
  let output ← IO.getStdout
  output.putStr Chat.Session.prompt
  output.flush
  let line ← (← IO.getStdin).getLine
  let w := { w with now := ← present }
  let text := String.ofList (if line.endsWith "\n" then line.toList.dropLast else line.toList)
  match ← perform (s.turn number (if line.isEmpty then none else some text)) w with
  | (.ok (some next), w) => converse s next w
  | (.ok none, _) => return 0
  | (.error _, _) => return 1

def call (p : Program) (c : Choices) : IO UInt32 := do
  let w ← worldFor p c
  if p = .chat then
    match ← perform (do let s ← Program.openChat c; s.greet; return s) w with
    | (.ok s, w) => converse s 1 w
    | (.error _, _) => return 1
  else
    match ← perform (p.work c) w with
    | (.ok (.serving _ host port), _) =>
      IO.eprintln (Site.title ++ " cannot be served at " ++ host ++ ":" ++ toString port
        ++ " without a web server.")
      return 1
    | (.ok _, _) => return 0
    | (.error _, _) => return 1

end TableTalk.CommandLine

open TableTalk.CommandLine in
/-- Calls the program that the first word names. -/
def main (words : List String) : IO UInt32 := do
  match words with
  | name :: rest =>
    match Program.ofName? name with
    | none => IO.eprintln ("no such program: " ++ name); return 2
    | some p =>
      match p.usage.choices rest with
      | .ok c => call p c
      | .error .help => return 0
      | .error (.mistake m) => IO.eprintln ("error: " ++ m.message); return 2
  | [] => IO.eprintln "usage: tabletalk (inspect|scenarios|chat|site) ..."; return 2

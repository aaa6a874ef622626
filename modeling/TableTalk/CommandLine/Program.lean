import TableTalk.Assistant.Scenario
import TableTalk.Chat.Session
import TableTalk.CommandLine.Choices
import TableTalk.Json.Writer
import TableTalk.Site.Service
import TableTalk.Source.Inspector

/-!
# The programs

Four programs can be called: one looks into a table, one runs the scenarios of a profile, one chats
and one serves the site. `Program.run` calls a program with words: it ends at once if they make no
sense or ask for help, and else does its work as the choices in them say.
-/

namespace TableTalk.CommandLine

inductive Program where
  | inspect
  | scenarios
  | chat
  | site
  deriving DecidableEq, Repr

inductive Ending where
  | done
  /-- It did not get to work. -/
  | stopped (s : Stop)
  /-- It goes on to serve a site. -/
  | serving (site : Site) (host : String) (port : Int)

def Stop.status : Stop → Nat
  | help => 0
  | mistake _ => 2

namespace Program

def ofName? : String → Option Program
  | "inspect" => some inspect
  | "scenarios" => some scenarios
  | "chat" => some chat
  | "site" => some site
  | _ => none

def usage : Program → Usage
  | inspect =>
    ⟨[("--fallback", .text), ("--max-preview-rows", .number), ("--schema", .switch)], true⟩
  | scenarios =>
    ⟨[("--config", .text), ("--profile", .text), ("--scenarios", .text), ("--debug", .switch)],
      false⟩
  | chat => ⟨[("--config", .text), ("--max-rows", .number), ("--debug", .switch)], false⟩
  | site =>
    ⟨[("--config", .text), ("--host", .text), ("--port", .number), ("--debug", .switch)], false⟩

/-- The file with the settings when no other is chosen. -/
def defaultConfig : String := "configs/dev.yaml"

def chosenSettings (c : Choices) : Action Settings :=
  Settings.load ((c.text? "--config").getD defaultConfig)

/-- The assistant that the chosen settings call for. -/
def chosenAssistant (c : Choices) : Action Assistant := do
  Assistant.build (← chosenSettings c) none

def chosenInspector (c : Choices) : Source.Inspector where
  path := c.operand.getD ""
  alternative := c.text? "--fallback"
  previewRows := (c.number? "--max-preview-rows").getD Source.defaultPreview
  tableName := Table.defaultName
  loaded := none

def inspectTable (c : Choices) : Action Unit := do
  let (t, i) ← (chosenInspector c).load
  if c.isOn "--schema" then
    World.print (← Action.ofExcept (t.describe i.tableName Table.defaultSamples))
  else
    World.print (i.description t).writeIndented

def runScenarios (c : Choices) : Action Unit := do
  let a ← chosenAssistant c
  let directory := Path.parse ((c.text? "--scenarios").getD "assets/scenarios")
  let outcomes ← Scenario.runProfile (some a) directory ((c.text? "--profile").getD "demo")
  World.print (Json.list (outcomes.map Scenario.Outcome.toJson)).writeIndented

def openChat (c : Choices) : Action Chat.Session := do
  let assistant ← chosenAssistant c
  let name ← Chat.freshName
  return ⟨assistant, name, (c.number? "--max-rows").getD Chat.defaultRows⟩

/-- The site, and where it is to be reached. -/
def openSite (c : Choices) : Action Ending := do
  return .serving ⟨← chosenSettings c, none, none, none⟩ ((c.text? "--host").getD "127.0.0.1")
    ((c.number? "--port").getD 8000)

def work (c : Choices) : Program → Action Ending
  | inspect => do inspectTable c; return .done
  | scenarios => do runScenarios c; return .done
  | chat => do (← openChat c).start; return .done
  | site => openSite c

def run (p : Program) (words : List String) : Action Ending :=
  match p.usage.choices words with
  | .ok c => p.work c
  | .error s => return .stopped s

end Program

end TableTalk.CommandLine

import TableTalk.Settings.Basic
import TableTalk.Source.Location
import TableTalk.Yaml.Document

/-!
# Loading settings

Settings are read from a YAML file. The location of the table that they name may be overruled by an
environment variable.
-/

namespace TableTalk

namespace Settings

def load (path : String) : Action Settings := do
  let text ← World.readText false (Path.parse path)
  Action.ofExcept ((Yaml.parse text).bind ofValue)

end Settings

namespace SourceSettings

/-- The location in the environment, if a variable is named and holds something. -/
def environmentLocation (s : SourceSettings) : Action (Option String) :=
  match s.pathVariable with
  | none => return none
  | some name => do
    match ← World.environmentValue name with
    | none => return none
    | some "" => return none
    | some v =>
      if Source.isUrl v then return some v
      else return some (← World.expandHome (Path.parse v)).text

def location (s : SourceSettings) : Action String := do
  match ← s.environmentLocation, s.path with
  | some l, _ => return l
  | none, some p => return p
  | none, none => throw (.noLocation s.pathVariable)

end SourceSettings

end TableTalk

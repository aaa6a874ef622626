import TableTalk.Double.Decimal
import TableTalk.Json.Reader
import TableTalk.Table.Schema
import TableTalk.Text.Lower
import TableTalk.Text.Whole
import TableTalk.Value

/-!
# Settings

What can be set: where the table is, how the language model is asked, whether unknown columns are
refused, which remote service runs statements and where logs go. `Settings.ofValue` takes them from
data, section by section; what is missing has a default and a section that counts as no is as good
as missing.
-/

namespace TableTalk

open Text

structure SourceSettings where
  /-- The environment variable that may hold the location of the table. -/
  pathVariable : Option String
  path : Option String
  alternative : Option String
  tableName : String
  timeout : Double
  deriving DecidableEq, Repr

structure ModelSettings where
  provider : String
  model : String
  keyVariable : String
  maxTokens : Option Int
  limit : Int
  timeout : Option Double
  deriving DecidableEq, Repr

namespace ModelSettings

/-- Whether the settings ask for a language model that can be had. -/
def enabled (m : ModelSettings) : Bool :=
  m.provider = "openai" && m.model ≠ ""

end ModelSettings

structure Settings where
  source : SourceSettings
  model : Option ModelSettings
  strict : Bool
  remote : Option String
  remoteTimeout : Double
  /-- The section on paths, if there is one, with the directory for logs. -/
  paths : Option (Option String)
  deriving DecidableEq, Repr

namespace Value

/-- The text of bytes that are ASCII. -/
def asciiText? (bs : List UInt8) : Option String :=
  if bs.all (· < 0x80) then some (String.ofList (bs.map fun b => Char.ofNat b.toNat)) else none

def toDouble : Value → Except Failure Double
  | bool b => .ok (if b then Double.ofUnits false Double.unitsPerOne 1 else Double.zero)
  | int i => match Double.ofInt? i with | some d => .ok d | none => .error .tooLarge
  | float d => .ok d
  | text s => match Double.ofText? s with | some d => .ok d | none => .error (.unreadableNumber s)
  | bytes bs =>
    match (asciiText? bs).bind Double.ofText? with
    | some d => .ok d
    | none => .error (.unreadableNumber (shownBytes bs))
  | _ => .error .wrongKind

/-- A double cut to a whole number. -/
def truncate : Double → Except Failure Int
  | .finite negative units =>
    let n : Int := units / Double.unitsPerOne
    .ok (if negative then -n else n)
  | .infinite _ => .error .tooLarge
  | .nan => .error (.badScalar .unreadable)

def toInt : Value → Except Failure Int
  | bool b => .ok (if b then 1 else 0)
  | int i => .ok i
  | float d => truncate d
  | text s =>
    if digitLimit < digitCount s then .error (.hugeNumeral (digitCount s))
    else
      match readWhole? s with
      | some i => .ok i
      | none => .error (.unreadableNumber s)
  | bytes bs =>
    match (asciiText? bs).bind readLimited? with
    | some i => .ok i
    | none => .error (.unreadableNumber (shownBytes bs))
  | _ => .error .wrongKind

/-- The value under a name, of what has to be a mapping. -/
def field (v : Value) (name : String) : Except Failure (Option Value) :=
  match v.unfold with
  | map _ => .ok (v.get? name)
  | _ => .error .noFields

/-- The section under a name; one that counts as no is empty. -/
def section? (v : Value) (name : String) : Except Failure Value := do
  match ← v.field name with
  | some s => return if s.isFalsy then map [] else s
  | none => return map []

def toText (v : Value) : Except Failure String :=
  if v.hasHugeInt then .error (.hugeNumeral digitLimit) else .ok v.display

/-- The text under a name, if it counts as something. -/
def text? (v : Value) (name : String) : Except Failure (Option String) := do
  match ← v.field name with
  | some t => if t.isFalsy then return none else return some (← t.toText)
  | none => return none

/-- The text under a name, with a default where there is nothing. -/
def textOr (v : Value) (name default : String) : Except Failure String := do
  match ← v.field name with
  | some t => t.toText
  | none => return default

/-- The number under a name, with a default where there is nothing. -/
def doubleOr (v : Value) (name : String) (default : Nat) : Except Failure Double := do
  ((← v.field name).getD (int default)).toDouble

def isNull : Value → Bool
  | null => true
  | _ => false

end Value

namespace Settings

def sourceOf (raw : Value) : Except Failure SourceSettings := do
  let csv ← (← raw.section? "data_sources").section? "csv"
  return {
    pathVariable := ← csv.text? "path_env"
    path := ← csv.text? "path"
    alternative := ← csv.text? "fallback_path"
    tableName := ← csv.textOr "table_name" Table.defaultName
    timeout := ← csv.doubleOr "timeout_s" 30 }

/-- A value converted, unless it is null. -/
def unlessNull {α : Type} (convert : Value → Except Failure α) (v : Value) :
    Except Failure (Option α) :=
  if v.isNull then .ok none else (convert v).map some

def modelOf (raw : Value) : Except Failure (Option ModelSettings) := do
  match ← raw.field "llm" with
  | none => return none
  | some m =>
    if m.isFalsy then return none
    let maxTokens := (← m.field "max_output_tokens").getD (.int 150)
    let timeout := (← m.field "timeout_s").getD .null
    return some {
      provider := lower (← m.textOr "provider" "openai")
      model := ← m.textOr "model_id" ""
      keyVariable := ← m.textOr "api_key_env" "OPENAI_API_KEY"
      maxTokens := ← unlessNull Value.toInt maxTokens
      limit := ← ((← m.field "default_limit").getD (.int 100)).toInt
      timeout := ← unlessNull Value.toDouble timeout }

def pathsOf (raw : Value) : Except Failure (Option (Option String)) := do
  match ← raw.field "paths" with
  | none => return none
  | some p => if p.isFalsy then return none else return some (← p.text? "query_logs_dir")

def ofValue (v : Value) : Except Failure Settings := do
  let raw := if v.isFalsy then .map [] else v
  let source ← sourceOf raw
  let model ← modelOf raw
  let engine ← raw.section? "engine"
  let strict := ((← engine.field "strict_columns").map fun s => !s.isFalsy).getD false
  let execution ← raw.section? "execution"
  let remote ← execution.text? "remote_url"
  let remoteTimeout ← execution.doubleOr "timeout_s" 10
  return ⟨source, model, strict, remote, remoteTimeout, ← pathsOf raw⟩

end Settings

end TableTalk

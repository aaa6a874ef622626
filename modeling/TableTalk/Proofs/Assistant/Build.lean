import TableTalk.Assistant.Basic
import TableTalk.Proofs.Execution.Engine
import TableTalk.Proofs.Source.Loading

/-!
# Putting an assistant together

The engine of an assistant runs statements on its table, as strictly as the settings say. To put an
assistant together leaves the stopwatch as it is.
-/

namespace TableTalk

open TableTalk.Action

/-- The assistant goes by the keyword rules for its table and runs statements on the table
itself. -/
structure Assistant.IsLocal (a : Assistant) (strict : Bool) : Prop where
  generator : a.generator = .only (.rules (Generation.RuleBook.standard a.tableName))
  executor : a.executor = .engine ⟨a.table, strict⟩

section Stopwatch

open World

theorem keeps_expandHome (p : Path) : Keeps stopwatch (expandHome p) := by
  intro w
  rcases expandHome_cases p w.environment w.homes with h | ⟨path, -, h⟩ <;> rw [h w rfl rfl]

theorem keeps_makeDirectories (p : Path) : Keeps stopwatch (makeDirectories p) := by
  intro w
  rw [makeDirectories, bind_of_ok (get_run w)]
  cases w.files.makeDirectories w.cwd p <;> rfl

end Stopwatch

namespace Source

open World

theorem keeps_ask (method : String) (address : Web.Address) (body : Option Json) :
    Keeps stopwatch (ask method address body) := by
  intro w
  rw [ask_run]
  rfl

theorem keeps_fetch (address : Web.Address) (redirects : Nat) :
    Keeps stopwatch (fetch address redirects) := by
  induction redirects generalizing address with
  | zero => exact .throw _
  | succ redirects ih =>
    refine (keeps_ask "GET" address none).bind fun found => ?_
    obtain ⟨reply, _ | next⟩ := found
    · exact .pure _
    · exact ih next

theorem keeps_getPage (ownClient : Bool) (address : Web.Address) :
    Keeps stopwatch (getPage ownClient address) := by
  rw [getPage]
  split
  · exact (keeps_ask _ _ _).bind fun _ => .pure _
  · exact keeps_fetch _ _

theorem keeps_readCsvText (ownClient : Bool) (location : String) :
    Keeps stopwatch (readCsvText ownClient location) := by
  rw [readCsvText]
  split
  · rw [download_eq]
    exact (Keeps.ofExcept _).bind fun _ => (keeps_getPage _ _).bind fun _ => .ofExcept _
  · intro w
    obtain ⟨r, hrun, -⟩ := readCsvFile_run location w
    rw [hrun]

theorem keeps_loadTable (ownClient : Bool) (primary : String) (alternative : Option String) :
    Keeps stopwatch (loadTable ownClient primary alternative) := by
  have hread (location : String) : Keeps stopwatch (readTable ownClient location) :=
    (keeps_readCsvText ownClient location).bind fun _ => .ofExcept _
  refine (hread primary).orElseIf fun f => ?_
  cases alternative with
  | none => exact .throw _
  | some other => exact (hread other).orElseIf fun _ => .throw _

end Source

namespace Assistant

open World

theorem keeps_location (s : SourceSettings) : Keeps stopwatch s.location := by
  have henvironment : Keeps stopwatch s.environmentLocation := by
    rw [SourceSettings.environmentLocation]
    split
    · exact .pure _
    · refine (Keeps.get.bind fun _ => .pure _).bind fun value => ?_
      split
      · exact .pure _
      · exact .pure _
      · split
        · exact .pure _
        · exact (keeps_expandHome _).bind fun _ => .pure _
  refine henvironment.bind fun named => ?_
  split
  · exact .pure _
  · exact .pure _
  · exact .throw _

theorem keeps_buildGenerator (s : Settings) (table : Table) :
    Keeps stopwatch (buildGenerator s table) := by
  have hclient (m : ModelSettings) : Keeps stopwatch m.client := by
    refine Keeps.get.bind fun w => ?_
    split
    · exact .throw _
    · refine (Keeps.get.bind fun _ => .pure _).bind fun key => ?_
      split
      · exact .throw _
      · split
        · exact .throw _
        · exact .pure _
  have husable : Keeps stopwatch (usableModel s) := by
    rw [usableModel]
    split
    · exact .pure _
    · split
      · exact (((hclient _).bind fun _ => .pure _).orElseIf fun _ => .pure _).bind fun _ => .pure _
      · exact .pure _
  refine husable.bind fun model => ?_
  split
  · exact .pure _
  · exact (Keeps.ofExcept _).bind fun _ => .pure _

def forTable (s : Settings) (table : Table) : Action Assistant := do
  let generator ← buildGenerator s table
  let journal ← buildJournal s
  return {
    table
    tableName := s.source.tableName
    engine := ⟨table, s.strict⟩
    executor := buildExecutor s ⟨table, s.strict⟩
    generator
    journal
    sink := some journal.append }

theorem build_some (s : Settings) (table : Table) : build s (some table) = forTable s table :=
  rfl

theorem build_none (s : Settings) : build s none = (s.source.location >>= fun location =>
    Source.loadTable false location s.source.alternative >>= forTable s) :=
  rfl

/-- To put an assistant together leaves the stopwatch as it is. -/
theorem keeps_build (s : Settings) (given : Option Table) : Keeps stopwatch (build s given) := by
  have hfinish (table : Table) : Keeps stopwatch (forTable s table) := by
    refine (keeps_buildGenerator s table).bind fun _ => Keeps.bind ?_ fun _ => .pure _
    exact (keeps_expandHome _).bind fun _ => (keeps_makeDirectories _).bind fun _ => .pure _
  cases given with
  | some t => exact hfinish t
  | none =>
    exact (keeps_location s.source).bind fun _ => (Source.keeps_loadTable _ _ _).bind hfinish

variable {s : Settings} {t : Table} {w : World} {a : Assistant}

/-- What the parts of an assistant for a table are. -/
theorem of_forTable (h : (forTable s t w).1 = .ok a) :
    (∃ w', buildGenerator s t w = (.ok a.generator, w')) ∧ a.table = t ∧
      a.tableName = s.source.tableName ∧ a.engine = ⟨t, s.strict⟩ ∧
        a.executor = buildExecutor s ⟨t, s.strict⟩ := by
  obtain ⟨g, w', hgenerator, h⟩ := exists_of_bind_eq_ok h
  obtain ⟨_, _, -, h⟩ := exists_of_bind_eq_ok h
  rw [← Except.ok.inj h]
  exact ⟨⟨w', hgenerator⟩, rfl, rfl, rfl, rfl⟩

/-- An assistant for a given table runs statements on it. -/
theorem engine_of_build (h : (build s (some t) w).1 = .ok a) : a.engine = ⟨t, s.strict⟩ := by
  rw [build_some] at h
  exact (of_forTable h).2.2.2.1

theorem generator_of_buildGenerator (hmodel : s.model = none) {g : Generator} {w' : World}
    (h : buildGenerator s t w = (.ok g, w')) :
    g = .only (.rules (Generation.RuleBook.standard s.source.tableName)) := by
  have husable : usableModel s w = (.ok none, w) := by
    rw [usableModel, hmodel]
    rfl
  rw [buildGenerator, bind_of_ok husable] at h
  exact (Except.ok.inj (Prod.mk.inj h).1).symm

/-- Without a language model and a remote service in the settings, the assistant is a local one. -/
theorem isLocal_of_build {given : Option Table} (hmodel : s.model = none)
    (hremote : s.remote = none) (h : (build s given w).1 = .ok a) : a.IsLocal s.strict := by
  have hfinish {t : Table} {w : World} (h : (forTable s t w).1 = .ok a) : a.IsLocal s.strict := by
    obtain ⟨⟨w', hgenerator⟩, htable, hname, -, hexecutor⟩ := of_forTable h
    refine ⟨?_, ?_⟩
    · rw [hname]
      exact generator_of_buildGenerator hmodel hgenerator
    · rw [hexecutor, htable, buildExecutor, hremote]
  cases given with
  | some t => exact hfinish h
  | none =>
    rw [build_none] at h
    obtain ⟨_, _, -, h⟩ := exists_of_bind_eq_ok h
    obtain ⟨_, _, -, h⟩ := exists_of_bind_eq_ok h
    exact hfinish h

end Assistant

end TableTalk

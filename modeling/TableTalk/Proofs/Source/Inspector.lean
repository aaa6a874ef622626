import TableTalk.Proofs.Csv.Scan
import TableTalk.Proofs.Failure
import TableTalk.Proofs.Table.Records
import TableTalk.Proofs.Table.Samples
import TableTalk.Proofs.World.Action
import TableTalk.Source.Inspector

/-!
# One snapshot

An inspector is read again and again while files are written and deleted. Until a reading gets a
table, each one goes to the locations anew and leaves the inspector as it was. The first table is
kept, every reading from then on shows that table, and none of them fails: a table that was loaded
is rectangular, so that each of its columns has samples.
-/

namespace TableTalk.Source

open TableTalk.Action

variable {w w' : World} {t : Table} {f : Failure}

theorem yields_readTable (ownClient : Bool) (location : String) :
    Yields Csv.IsRectangular (readTable ownClient location) :=
  .bind fun _ => .ofExcept fun _ ht => Csv.isRectangular_of_parse ht

theorem yields_loadTable (ownClient : Bool) (primary : String) (alternative : Option String) :
    Yields Csv.IsRectangular (loadTable ownClient primary alternative) := by
  refine (yields_readTable ownClient primary).orElseIf fun f => ?_
  cases alternative with
  | none => exact .throw _
  | some other => exact (yields_readTable ownClient other).orElseIf fun _ => .throw _

theorem isRectangular_of_loadTable {ownClient : Bool} {primary : String}
    {alternative : Option String} (h : loadTable ownClient primary alternative w = (.ok t, w')) :
    Csv.IsRectangular t :=
  yields_loadTable ownClient primary alternative w t (congrArg Prod.fst h)

namespace Inspector

def opened (path : String) (alternative : Option String) (count : Nat) (tableName : String) :
    Inspector :=
  ⟨path, alternative, count, tableName, none⟩

def keeping (i : Inspector) (t : Table) : Inspector :=
  { i with loaded := some t }

variable {i : Inspector}

/-- What a look at a table shows: the parts of a description, the preview and the schema are all of
the one table. -/
inductive Shows (i : Inspector) (t : Table) : Look → View → Prop
  | table : Shows i t .table (.table t)
  | columns : Shows i t .columns (.data (ResultSet.textList t.headers))
  | rowCount : Shows i t .rowCount (.data (.int t.rows.length))
  | preview : Shows i t .preview (.data (.list
      ((t.rows.take i.previewRows.toNat).map fun row => recordJson (Table.record t.headers row))))
  | description : Shows i t .description (.data (.record [
      ("path", .text i.path),
      ("table_name", .text i.tableName),
      ("row_count", .int t.rows.length),
      ("column_count", .int t.headers.length),
      ("columns", ResultSet.textList t.headers),
      ("preview_rows", .list ((t.rows.take i.previewRows.toNat).map fun row =>
        recordJson (Table.record t.headers row)))]))
  | schema {text : String} : t.describe i.tableName Table.defaultSamples = .ok text →
      Shows i t .schema (.data (.text text))

theorem preview_eq (h : 0 ≤ i.previewRows) (t : Table) :
    i.preview t = .list ((t.rows.take i.previewRows.toNat).map fun row =>
      recordJson (Table.record t.headers row)) := by
  have hrecords := t.records_page 0 i.previewRows.toNat
  rw [Int.toNat_of_nonneg h, Int.natCast_zero, List.drop_zero] at hrecords
  rw [preview, hrecords, List.map_map]
  rfl

/-- Every look at a rectangular table shows what it should. -/
theorem exists_view (h : 0 ≤ i.previewRows) (ht : Csv.IsRectangular t) (l : Look) :
    ∃ v, i.view t l = .ok v ∧ i.Shows t l v := by
  cases l with
  | table => exact ⟨_, rfl, .table⟩
  | columns => exact ⟨_, rfl, .columns⟩
  | rowCount => exact ⟨_, rfl, .rowCount⟩
  | preview =>
    refine ⟨_, rfl, ?_⟩
    rw [preview_eq h]
    exact .preview
  | description =>
    refine ⟨_, rfl, ?_⟩
    rw [description, preview_eq h]
    exact .description
  | schema =>
    obtain ⟨text, htext⟩ := Table.exists_describe ht i.tableName Table.defaultSamples
    refine ⟨_, ?_, .schema htext⟩
    rw [view, htext]
    rfl

theorem view_keeping (i : Inspector) (t t' : Table) (l : Look) :
    (i.keeping t').view t l = i.view t l :=
  rfl

theorem load_of_keeping (i : Inspector) (t : Table) (w : World) :
    (i.keeping t).load w = (.ok (t, i.keeping t), w) :=
  rfl

theorem load_of_ok (hi : i.loaded = none)
    (h : loadTable false i.path i.alternative w = (.ok t, w')) :
    i.load w = (.ok (t, i.keeping t), w') := by
  rw [load, hi]
  exact bind_of_ok h

theorem load_of_error (hi : i.loaded = none)
    (h : loadTable false i.path i.alternative w = (.error f, w')) : i.load w = (.error f, w') := by
  rw [load, hi]
  exact bind_of_error h

theorem look_of_ok {i' : Inspector} (h : i.load w = (.ok (t, i'), w')) (l : Look) :
    i.look l w = ((i'.view t l).map fun v => (v, i'), w') := by
  rw [look, bind_of_ok h]
  dsimp only
  cases hview : i'.view t l with
  | error f => exact bind_of_error (ofExcept_run _ w')
  | ok v => exact bind_of_ok (ofExcept_run _ w')

/-- A description put together from one load for each of its parts. -/
def describeInTurn (i : Inspector) : Action (View × Inspector) := do
  let (counted, i) ← i.load
  let (sized, i) ← i.load
  let (named, i) ← i.load
  let (shown, i) ← i.load
  return (.data (.record [
    ("path", .text i.path),
    ("table_name", .text i.tableName),
    ("row_count", .int counted.rowCount),
    ("column_count", .int sized.width),
    ("columns", ResultSet.textList named.headers),
    ("preview_rows", i.preview shown)]), i)

/-- After the first load the others give the same table. -/
theorem describeInTurn_eq (i : Inspector) : i.describeInTurn = i.look .description := by
  funext w
  have hrun (t : Table) (w' : World) (h : i.load w = (.ok (t, i.keeping t), w')) :
      i.describeInTurn w = i.look .description w := by
    rw [look_of_ok h, describeInTurn, bind_of_ok h]
    rfl
  cases hi : i.loaded with
  | some t =>
    have hkeeping : i.keeping t = i := by rw [keeping, ← hi]
    have hload := load_of_keeping i t w
    rw [hkeeping] at hload
    exact hrun t w (hkeeping.symm ▸ hload)
  | none =>
    rcases hload : loadTable false i.path i.alternative w with ⟨f | t, w'⟩
    · have hload := load_of_error hi hload
      rw [describeInTurn, look, bind_of_error hload, bind_of_error hload]
    · exact hrun t w' (load_of_ok hi hload)

inductive Step where
  | read (l : Look)
  | change (change : World → World)

/-- A look that was taken: at what, in which world, with which outcome, and what it left. -/
structure Reading where
  look : Look
  before : World
  outcome : Except Failure View
  inspector : Inspector
  after : World

def read (i : Inspector) (l : Look) (w : World) : Reading :=
  match i.look l w with
  | (.ok (v, i'), w') => ⟨l, w, .ok v, i', w'⟩
  | (.error f, w') => ⟨l, w, .error f, i, w'⟩

def readings (i : Inspector) : List Step → World → List Reading
  | [], _ => []
  | .read l :: steps, w =>
    let r := i.read l w
    r :: r.inspector.readings steps r.after
  | .change change :: steps, w => i.readings steps (change w)

structure Reading.Misses (i : Inspector) (r : Reading) (f : Failure) : Prop where
  loadTable_eq : loadTable false i.path i.alternative r.before = (.error f, r.after)
  outcome_eq : r.outcome = .error f
  inspector_eq : r.inspector = i

structure Reading.Serves (i : Inspector) (r : Reading) (t : Table) : Prop where
  exists_outcome : ∃ v, r.outcome = .ok v ∧ i.Shows t r.look v
  inspector_eq : r.inspector = i.keeping t

def Reading.Takes (i : Inspector) (r : Reading) (t : Table) : Prop :=
  loadTable false i.path i.alternative r.before = (.ok t, r.after)

theorem read_serves {i' : Inspector} (hcount : 0 ≤ i.previewRows) (ht : Csv.IsRectangular t)
    (h : i'.load w = (.ok (t, i.keeping t), w')) (l : Look) :
    (i'.read l w).Serves i t ∧ (i'.read l w).after = w' := by
  obtain ⟨v, hview, hshows⟩ := exists_view hcount ht l
  have hlook := look_of_ok h l
  rw [view_keeping, hview] at hlook
  have hread : i'.read l w = ⟨l, w, .ok v, i.keeping t, w'⟩ := by
    rw [read, hlook]
    rfl
  rw [hread]
  exact ⟨⟨⟨v, rfl, hshows⟩, rfl⟩, rfl⟩

theorem before_read (i : Inspector) (l : Look) (w : World) : (i.read l w).before = w := by
  rw [read]
  split <;> rfl

/-- The first look takes a table and keeps it, or it misses. -/
theorem read_cases (hi : i.loaded = none) (hcount : 0 ≤ i.previewRows) (l : Look) (w : World) :
    (∃ f, (i.read l w).Misses i f) ∨
      ∃ t, Csv.IsRectangular t ∧ (i.read l w).Takes i t ∧ (i.read l w).Serves i t := by
  rcases hload : loadTable false i.path i.alternative w with ⟨f | t, w'⟩
  · have hlook : i.look l w = (.error f, w') := bind_of_error (load_of_error hi hload)
    have hread : i.read l w = ⟨l, w, .error f, i, w'⟩ := by
      rw [read, hlook]
    exact Or.inl ⟨f, hread ▸ ⟨hload, rfl, rfl⟩⟩
  · have ht := isRectangular_of_loadTable hload
    obtain ⟨hserves, hafter⟩ := read_serves hcount ht (load_of_ok hi hload) l
    refine Or.inr ⟨t, ht, ?_, hserves⟩
    rw [Reading.Takes, before_read, hafter]
    exact hload

/-- An inspector that keeps a table shows it from then on, without looking at the world. -/
theorem readings_serve (hcount : 0 ≤ i.previewRows) (ht : Csv.IsRectangular t) (steps : List Step)
    (w : World) :
    ∀ r ∈ (i.keeping t).readings steps w, r.Serves i t ∧ r.after = r.before := by
  induction steps generalizing w with
  | nil =>
    intro r hr
    cases hr
  | cons step steps ih =>
    cases step with
    | change change => exact ih (change w)
    | read l =>
      obtain ⟨hserves, hafter⟩ := read_serves hcount ht (load_of_keeping i t w) l
      rw [readings, hserves.inspector_eq]
      exact List.forall_mem_cons.2
        ⟨⟨hserves, hafter.trans (before_read (i.keeping t) l w).symm⟩, ih _⟩

theorem readings_cases (hi : i.loaded = none) (hcount : 0 ≤ i.previewRows) (steps : List Step)
    (w : World) :
    ∃ missed served, i.readings steps w = missed ++ served ∧ (∀ r ∈ missed, ∃ f, r.Misses i f) ∧
      (served = [] ∨ ∃ first later t, served = first :: later ∧ first.Takes i t ∧
        (∀ r ∈ served, r.Serves i t) ∧ ∀ r ∈ later, r.after = r.before) := by
  induction steps generalizing w with
  | nil => exact ⟨[], [], rfl, by simp, Or.inl rfl⟩
  | cons step steps ih =>
    cases step with
    | change change => exact ih (change w)
    | read l =>
      rcases read_cases hi hcount l w with ⟨f, hmisses⟩ | ⟨t, ht, htakes, hserves⟩
      · obtain ⟨missed, served, hreadings, hmissed, hserved⟩ := ih (i.read l w).after
        refine ⟨i.read l w :: missed, served, ?_,
          List.forall_mem_cons.2 ⟨⟨f, hmisses⟩, hmissed⟩, hserved⟩
        rw [readings, hmisses.inspector_eq, hreadings, List.cons_append]
      · have hlater := readings_serve hcount ht steps (i.read l w).after
        rw [← hserves.inspector_eq] at hlater
        refine ⟨[], _, rfl, by simp, Or.inr ⟨_, _, t, rfl, htakes, ?_, ?_⟩⟩
        · exact List.forall_mem_cons.2 ⟨hserves, fun r hr => (hlater r hr).1⟩
        · exact fun r hr => (hlater r hr).2

/-- An inspector serves one snapshot, whatever is read, written and deleted. First come readings
that find no table at the locations as they are then and leave the inspector as it was. If one gets
a table, it and all later ones show that table, and the later ones do not look at the world. It is
the same to a description whether there is one load for all its parts or one for each. -/
theorem exists_snapshot (path : String) (alternative : Option String) (count : Nat)
    (tableName : String) (steps : List Step) (w : World) :
    (∃ missed served,
      (opened path alternative count tableName).readings steps w = missed ++ served ∧
      (∀ r ∈ missed, ∃ f, r.Misses (opened path alternative count tableName) f) ∧
      (served = [] ∨ ∃ first later t, served = first :: later ∧
        first.Takes (opened path alternative count tableName) t ∧
        (∀ r ∈ served, r.Serves (opened path alternative count tableName) t) ∧
        ∀ r ∈ later, r.after = r.before)) ∧
    ∀ i : Inspector, i.describeInTurn = i.look .description :=
  ⟨readings_cases rfl (Int.natCast_nonneg count) steps w, describeInTurn_eq⟩

end Inspector

end TableTalk.Source

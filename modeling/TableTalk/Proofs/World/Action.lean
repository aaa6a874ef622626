import TableTalk.World.Basic

/-!
# Runs of actions

What an action does to a world, step by step: a step that gives a value hands it and the world it
leaves to the next, and one that fails ends the run.
-/

namespace TableTalk

def World.bare : World where
  cwd := ⟨"/", []⟩
  files := ⟨[]⟩
  environment := []
  homes := []
  now := ⟨⟨2024, 1, 1⟩, 0, 0, 0, 0, none⟩
  ticks := []
  ticksTaken := 0
  idsGiven := 0
  web := ⟨[], []⟩
  model := ⟨true, [], []⟩
  logNames := []
  logNamesKept := Log.NameCache.capacity
  trail := []
  input := []
  screen := []

namespace Action

variable {α β : Type} {x : Action α} {w w' : World}

theorem bind_of_ok {f : α → Action β} {a : α} (h : x w = (.ok a, w')) : (x >>= f) w = f a w' := by
  change ExceptT.bindCont f (x w).1 (x w).2 = _
  rw [h]
  rfl

theorem bind_of_error {f : α → Action β} {e : Failure} (h : x w = (.error e, w')) :
    (x >>= f) w = (.error e, w') := by
  change ExceptT.bindCont f (x w).1 (x w).2 = _
  rw [h]
  rfl

theorem exists_of_bind_eq_ok {f : α → Action β} {b : β} (h : ((x >>= f) w).1 = .ok b) :
    ∃ a w', x w = (.ok a, w') ∧ (f a w').1 = .ok b := by
  cases hrun : x w with
  | mk r w' =>
    cases r with
    | error e =>
      rw [bind_of_error hrun] at h
      cases h
    | ok a =>
      rw [bind_of_ok hrun] at h
      exact ⟨a, w', rfl, h⟩

theorem throw_run (e : Failure) (w : World) : (throw e : Action α) w = (.error e, w) :=
  rfl

theorem get_run (w : World) : (get : Action World) w = (.ok w, w) :=
  rfl

theorem set_run (w w' : World) : (set w' : Action PUnit) w = (.ok ⟨⟩, w') :=
  rfl

theorem ofExcept_run (r : Except Failure α) (w : World) : ofExcept r w = (r, w) :=
  rfl

theorem orElseIf_of_ok {p : Failure → Bool} {y : Failure → Action α} {a : α}
    (h : x w = (.ok a, w')) : orElseIf p x y w = (.ok a, w') := by
  rw [orElseIf, h]

theorem orElseIf_of_error {p : Failure → Bool} {y : Failure → Action α} {e : Failure}
    (h : x w = (.error e, w')) (hp : p e = true) : orElseIf p x y w = y e w' := by
  rw [orElseIf, h]
  exact if_pos hp

theorem orElseIf_of_other {p : Failure → Bool} {y : Failure → Action α} {e : Failure}
    (h : x w = (.error e, w')) (hp : p e = false) : orElseIf p x y w = (.error e, w') := by
  rw [orElseIf, h]
  exact if_neg (Bool.eq_false_iff.1 hp)

/-- The computation fails for a cause that `p` does not accept. -/
def Escapes (p : Failure → Bool) (r : Except Failure α) : Prop :=
  ∃ f, r = .error f ∧ p f = false

variable {p : Failure → Bool} {f : Failure}

theorem escapes_error (h : p f = false) : Escapes p (.error f : Except Failure α) :=
  ⟨f, rfl, h⟩

theorem not_escapes_ok (a : α) : ¬ Escapes p (.ok a) := by
  rintro ⟨f, hf, -⟩
  cases hf

theorem not_escapes_error (h : p f = true) : ¬ Escapes p (.error f : Except Failure α) := by
  rintro ⟨f', hf', hother⟩
  rw [← Except.error.inj hf', h] at hother
  exact absurd hother (by decide)

theorem escapes_error_iff : Escapes p (.error f : Except Failure α) ↔ p f = false := by
  constructor
  · rintro ⟨f', hf', h⟩
    rw [Except.error.inj hf']
    exact h
  · exact escapes_error

/-- A step decides whether a failure escapes if all that follows is to use its result. -/
theorem escapes_bind_pure_iff {r : Except Failure α} {g : α → β} :
    Escapes p (r >>= fun a => pure (g a)) ↔ Escapes p r := by
  cases r with
  | error f => exact escapes_error_iff.trans escapes_error_iff.symm
  | ok a => exact iff_of_false (not_escapes_ok (g a)) (not_escapes_ok a)

def Keeps {γ : Type} (part : World → γ) (x : Action α) : Prop :=
  ∀ w, part (x w).2 = part w

namespace Keeps

variable {γ : Type} {part : World → γ}

theorem pure (a : α) : Keeps part (Pure.pure a : Action α) :=
  fun _ => rfl

theorem throw (f : Failure) : Keeps part (MonadExcept.throw f : Action α) :=
  fun _ => rfl

theorem get : Keeps part (MonadState.get : Action World) :=
  fun _ => rfl

theorem ofExcept (r : Except Failure α) : Keeps part (ofExcept r) :=
  fun _ => rfl

theorem bind {f : α → Action β} (hx : Keeps part x) (hf : ∀ a, Keeps part (f a)) :
    Keeps part (x >>= f) := by
  intro w
  have hfirst := hx w
  cases hrun : x w with
  | mk r w' =>
    rw [hrun] at hfirst
    cases r with
    | error e =>
      rw [bind_of_error hrun]
      exact hfirst
    | ok a =>
      rw [bind_of_ok hrun]
      exact (hf a w').trans hfirst

theorem orElseIf {p : Failure → Bool} {y : Failure → Action α} (hx : Keeps part x)
    (hy : ∀ f, Keeps part (y f)) : Keeps part (orElseIf p x y) := by
  intro w
  have hfirst := hx w
  cases hrun : x w with
  | mk r w' =>
    rw [hrun] at hfirst
    cases r with
    | ok a =>
      rw [orElseIf_of_ok hrun]
      exact hfirst
    | error f =>
      by_cases hp : p f = true
      · rw [orElseIf_of_error hrun hp]
        exact (hy f w').trans hfirst
      · rw [orElseIf_of_other hrun (Bool.eq_false_iff.2 hp)]
        exact hfirst

end Keeps

theorem onPath_run (p : Path) (r : Except PathFault α) (w : World) :
    onPath p r w = (r.mapError fun fault => .system fault p.text, w) :=
  rfl

end Action

namespace World

open TableTalk.Action Text

/-- The path is `p`, or a home directory, as it is read from a text, stands in front. -/
def IsExpansion (p path : Path) : Prop :=
  path = p ∨ ∃ home rest, rest ⊆ p.names ∧
    path = ⟨(Path.parse home).root, (Path.parse home).names ++ rest⟩

/-- What home directory a path is below depends on the environment and the known people only. -/
theorem expandHome_cases (p : Path) (environment homes : List (String × String)) :
    (∀ w : World, w.environment = environment → w.homes = homes →
        expandHome p w = (.error .unknownHome, w)) ∨
      ∃ path, IsExpansion p path ∧ ∀ w : World, w.environment = environment → w.homes = homes →
        expandHome p w = (.ok path, w) := by
  unfold expandHome
  simp only [bind_of_ok (get_run _)]
  cases p.isAbsolute with
  | true => exact Or.inr ⟨p, Or.inl rfl, fun w _ _ => rfl⟩
  | false =>
    cases hnames : p.names with
    | nil => exact Or.inr ⟨p, Or.inl rfl, fun w _ _ => rfl⟩
    | cons first rest =>
      dsimp only
      by_cases htilde : ['~'].isPrefixOf first.toList = true
      · simp only [if_pos htilde]
        cases hhome : if first = "~" then environment.lookup "HOME"
          else homes.lookup (String.ofList (first.toList.drop 1)) with
        | none =>
          refine Or.inl ?_
          rintro w rfl rfl
          rw [hhome]
          rfl
        | some h =>
          by_cases hnested : ['~'].isPrefixOf h.toList = true
          · refine Or.inl ?_
            rintro w rfl rfl
            rw [hhome]
            dsimp only
            rw [if_pos hnested]
            exact bind_of_error (throw_run _ w)
          · let base := Path.parse (if h.toList.all (· == '/') then "/" else h)
            have hrest : rest ⊆ p.names := hnames ▸ List.subset_cons_self first rest
            refine Or.inr ⟨⟨base.root, base.names ++ rest⟩, Or.inr ⟨_, rest, hrest, rfl⟩, ?_⟩
            rintro w rfl rfl
            rw [hhome]
            dsimp only
            rw [if_neg hnested]
            rfl
      · simp only [if_neg htilde]
        exact Or.inr ⟨p, Or.inl rfl, fun w _ _ => rfl⟩

theorem expandHome_of_isAbsolute {p : Path} (h : p.isAbsolute = true) (w : World) :
    expandHome p w = (.ok p, w) := by
  rw [expandHome, bind_of_ok (get_run w), h]
  rfl

theorem expandHome_congr {p path : Path} {w w' : World} (h : expandHome p w = (.ok path, w))
    (henvironment : w'.environment = w.environment) (hhomes : w'.homes = w.homes) :
    expandHome p w' = (.ok path, w') := by
  rcases expandHome_cases p w.environment w.homes with hcase | ⟨path', -, hcase⟩
  · rw [hcase w rfl rfl] at h
    cases h
  · have hpath : path' = path :=
      Except.ok.inj (Prod.mk.inj ((hcase w rfl rfl).symm.trans h)).1
    rw [hcase w' henvironment hhomes, hpath]

theorem pathExists_run (p : Path) (w : World) :
    pathExists p w =
      ((w.files.exists? w.cwd p).mapError fun fault => .system fault p.text, w) := by
  rw [pathExists, bind_of_ok (get_run w), onPath_run]

theorem readText_run (dropsMark : Bool) (p : Path) (w : World) :
    readText dropsMark p w = (match w.files.read w.cwd p with
      | .error fault => .error (.system fault p.text)
      | .ok bytes =>
        match decodeUtf8? (if dropsMark then dropMark bytes else bytes) with
        | some cs => .ok (String.ofList (unifyNewlines cs))
        | none => .error .undecodable, w) := by
  have hbytes : readBytes p w = onPath p (w.files.read w.cwd p) w := by
    rw [readBytes, bind_of_ok (get_run w)]
  rw [onPath_run] at hbytes
  rw [readText]
  cases hread : w.files.read w.cwd p with
  | error fault =>
    rw [hread] at hbytes
    exact bind_of_error hbytes
  | ok bytes =>
    rw [hread] at hbytes
    rw [bind_of_ok hbytes]
    dsimp only
    cases decodeUtf8? (if dropsMark then dropMark bytes else bytes) <;> rfl

theorem appendText_of_ok {p : Path} {s : String} {w : World} {files : Files}
    (h : w.files.update w.cwd p (· ++ encodeUtf8 s.toList) = .ok files) :
    appendText p s w = (.ok (), { w with files }) := by
  rw [appendText, bind_of_ok (get_run w), h]
  rfl

theorem appendText_of_error {p : Path} {s : String} {w : World} {fault : PathFault}
    (h : w.files.update w.cwd p (· ++ encodeUtf8 s.toList) = .error fault) :
    appendText p s w = (.error (.system fault p.text), w) := by
  rw [appendText, bind_of_ok (get_run w), h]
  rfl

theorem makeDirectories_of_ok {p : Path} {w : World} {files : Files}
    (h : w.files.makeDirectories w.cwd p = .ok files) :
    makeDirectories p w = (.ok (), { w with files }) := by
  rw [makeDirectories, bind_of_ok (get_run w), h]
  rfl

theorem makeDirectories_of_error {p : Path} {w : World} {fault : PathFault}
    (h : w.files.makeDirectories w.cwd p = .error fault) :
    makeDirectories p w = (.error (.system fault p.text), w) := by
  rw [makeDirectories, bind_of_ok (get_run w), h]
  rfl

end World

namespace Action

variable {α β : Type} {Q : α → Prop} {R : β → Prop} {x : Action α}

def Yields (Q : α → Prop) (x : Action α) : Prop :=
  ∀ w a, (x w).1 = .ok a → Q a

namespace Yields

theorem throw (f : Failure) : Yields Q (MonadExcept.throw f : Action α) :=
  fun _ _ h => nomatch h

theorem ofExcept {r : Except Failure α} (h : ∀ a, r = .ok a → Q a) : Yields Q (ofExcept r) :=
  fun _ a ha => h a ha

theorem bind {f : α → Action β} (hf : ∀ a, Yields R (f a)) : Yields R (x >>= f) := by
  intro w b hb
  obtain ⟨a, w', -, hb⟩ := exists_of_bind_eq_ok hb
  exact hf a w' b hb

theorem orElseIf {p : Failure → Bool} {y : Failure → Action α} (hx : Yields Q x)
    (hy : ∀ f, Yields Q (y f)) : Yields Q (orElseIf p x y) := by
  intro w a ha
  rcases hrun : x w with ⟨f | b, w'⟩
  · by_cases hp : p f = true
    · rw [orElseIf_of_error hrun hp] at ha
      exact hy f w' a ha
    · rw [orElseIf_of_other hrun (Bool.eq_false_iff.2 hp)] at ha
      cases ha
  · rw [orElseIf_of_ok hrun] at ha
    exact hx w a (by rw [hrun]; exact ha)

end Yields

end Action

end TableTalk

import Mathlib.Data.List.Basic
import TableTalk.Agent.Basic
import TableTalk.Proofs.Failure
import TableTalk.Proofs.World.Action

/-!
# Trees of executors and of generators

A chain of two parts may have chains for parts, down to leaves that do the work. A tree of executors
runs its leaves from left to right up to the first that does not fail as a remote one, and what
comes of that leaf comes of the tree. A tree of generators may pass over leaves, since a part behind
another fails as a whole with the failure of its first leaf; but it runs none twice and none out of
order, a leaf that gives a statement is the last to be run, and without one the failure is that of
the leaf furthest to the left.
-/

namespace TableTalk

open TableTalk.Action

namespace Action

variable {α : Type}

def inTurn : List (Action α) → World → List (Except Failure α) × World
  | [], w => ([], w)
  | x :: xs, w =>
    let rest := inTurn xs (x w).2
    ((x w).1 :: rest.1, rest.2)

theorem inTurn_append (xs ys : List (Action α)) (w : World) :
    inTurn (xs ++ ys) w = ((inTurn xs w).1 ++ (inTurn ys (inTurn xs w).2).1,
      (inTurn ys (inTurn xs w).2).2) := by
  induction xs generalizing w with
  | nil => rfl
  | cons x xs ih =>
    rw [List.cons_append, inTurn, ih]
    rfl

def FailsAs (p : Failure → Bool) (r : Except Failure α) : Prop :=
  ∃ f, r = .error f ∧ p f = true

theorem orElseIf_of_not_failsAs {p : Failure → Bool} {x : Action α} {y : Failure → Action α}
    {w : World} (h : ¬ FailsAs p (x w).1) : orElseIf p x y w = x w := by
  cases hrun : x w with
  | mk r w' =>
    rw [hrun] at h
    cases r with
    | ok a => exact orElseIf_of_ok hrun
    | error f =>
      exact orElseIf_of_other hrun (Bool.eq_false_iff.2 fun hp => h ⟨f, rfl, hp⟩)

end Action

namespace Executor

def leaves : Executor → List Executor
  | chain first second => first.leaves ++ second.leaves
  | engine e => [engine e]
  | remote s => [remote s]
  | scripted run => [scripted run]

def runEach (es : List Executor) (statement : String) (w : World) :
    List (Except Failure ResultSet) × World :=
  inTurn (es.map (·.run statement)) w

/-- A run of a tree: the leaves `before` fail remotely, and `last` is run after them. What comes of
it comes of the tree. The leaves `after` are not run, and there are none if `last` fails
remotely. -/
structure RunsTo (e : Executor) (statement : String) (w : World) (before : List Executor)
    (last : Executor) (after : List Executor) : Prop where
  leaves : e.leaves = before ++ last :: after
  failed : ∀ r ∈ (runEach before statement w).1, FailsAs Failure.isRemoteFailure r
  run : e.run statement w = last.run statement (runEach before statement w).2
  stops : after = [] ∨ ¬ FailsAs Failure.isRemoteFailure (e.run statement w).1

variable {e first second last : Executor} {before after : List Executor} {statement : String}
  {w : World}

theorem runEach_append (es es' : List Executor) (statement : String) (w : World) :
    runEach (es ++ es') statement w = ((runEach es statement w).1 ++
        (runEach es' statement (runEach es statement w).2).1,
      (runEach es' statement (runEach es statement w).2).2) := by
  rw [runEach, List.map_append, inTurn_append]
  rfl

theorem runsTo_leaf (h : e.leaves = [e]) : e.RunsTo statement w [] e [] where
  leaves := h
  failed _ hr := absurd hr List.not_mem_nil
  run := rfl
  stops := Or.inl rfl

/-- All leaves of a tree that fails remotely were run and failed remotely. -/
theorem RunsTo.runEach_leaves (h : e.RunsTo statement w before last after)
    (hremote : FailsAs Failure.isRemoteFailure (e.run statement w).1) :
    (∀ r ∈ (runEach e.leaves statement w).1, FailsAs Failure.isRemoteFailure r) ∧
      (runEach e.leaves statement w).2 = (e.run statement w).2 := by
  obtain rfl : after = [] := h.stops.resolve_right fun hno => hno hremote
  rw [h.leaves, runEach_append, h.run]
  rw [h.run] at hremote
  refine ⟨fun r hr => ?_, rfl⟩
  rcases List.mem_append.1 hr with hr | hr
  · exact h.failed r hr
  · rw [List.mem_singleton.1 hr]
    exact hremote

/-- A tree runs its leaves from left to right, up to the first that does not fail remotely. -/
theorem exists_runsTo (e : Executor) (statement : String) (w : World) :
    ∃ before last after, e.RunsTo statement w before last after := by
  induction e generalizing w with
  | engine _ | remote _ | scripted _ => exact ⟨[], _, [], runsTo_leaf rfl⟩
  | chain first second ihFirst ihSecond =>
    obtain ⟨before, last, after, hfirst⟩ := ihFirst w
    by_cases hremote : FailsAs Failure.isRemoteFailure (first.run statement w).1
    · -- The second part is run in the world that all leaves of the first part leave.
      obtain ⟨hfailed, hworld⟩ := hfirst.runEach_leaves hremote
      obtain ⟨before', last', after', hsecond⟩ := ihSecond (first.run statement w).2
      obtain ⟨f, hf, hp⟩ := hremote
      have hrun : (chain first second).run statement w =
          second.run statement (first.run statement w).2 := orElseIf_of_error (Prod.ext hf rfl) hp
      refine ⟨first.leaves ++ before', last', after', ?_, fun r hr => ?_, ?_, ?_⟩
      · rw [leaves, hsecond.leaves, List.append_assoc]
      · rw [runEach_append, hworld] at hr
        exact (List.mem_append.1 hr).elim (hfailed r) (hsecond.failed r)
      · rw [runEach_append, hworld, hrun, hsecond.run]
      · rw [hrun]
        exact hsecond.stops
    · have hrun : (chain first second).run statement w = first.run statement w :=
        orElseIf_of_not_failsAs hremote
      refine ⟨before, last, after ++ second.leaves, ?_, hfirst.failed, ?_, ?_⟩
      · rw [leaves, hfirst.leaves, List.append_assoc, List.cons_append]
      · rw [hrun, hfirst.run]
      · rw [hrun]
        exact Or.inr hremote

end Executor

namespace Generator

def leaves : Generator → List Generator
  | chain first second => first.leaves ++ second.leaves
  | only second => second.leaves
  | rules book => [rules book]
  | model query => [model query]
  | scripted run => [scripted run]

def askEach (gs : List Generator) (question : Option String) (w : World) :
    List (Except Failure Generated) × World :=
  inTurn (gs.map (·.generate question)) w

def AreGenerationFailures (rs : List (Except Failure Generated)) : Prop :=
  ∀ r ∈ rs, FailsAs Failure.isGenerationFailure r

/-- A run of a tree in which the leaves `failed` fail, and `last`, which is run after them, gives
the statement of the tree. If they fail for want of a statement, no leaf in front of `last` is
passed over. -/
structure FindsAt (g : Generator) (question : Option String) (w : World) (failed : List Generator)
    (last : Generator) (generated : Generated) : Prop where
  sublist : (failed ++ [last]).Sublist g.leaves
  head : (failed ++ [last]).head? = g.leaves.head?
  fails : ∀ r ∈ (askEach failed question w).1, Fails r
  found : (last.generate question (askEach failed question w).2).1 = .ok generated
  run : g.generate question w = last.generate question (askEach failed question w).2
  all : AreGenerationFailures (askEach failed question w).1 → failed ++ [last] <+: g.leaves

/-- A run of a tree in which the leaves `tried`, one after another, all fail. The tree fails as the
first of them, which is its leftmost leaf. If they fail for want of a statement, none is passed
over. -/
structure GivesUp (g : Generator) (question : Option String) (w : World) (tried : List Generator)
    (f : Failure) : Prop where
  sublist : tried.Sublist g.leaves
  head : tried.head? = g.leaves.head?
  fails : ∀ r ∈ (askEach tried question w).1, Fails r
  first : (askEach tried question w).1.head? = some (.error f)
  run : g.generate question w = (.error f, (askEach tried question w).2)
  all : AreGenerationFailures (askEach tried question w).1 → tried = g.leaves

variable {g first second last : Generator} {failed tried tried' : List Generator}
  {question : Option String} {w : World} {generated : Generated} {f f' : Failure}

theorem askEach_append (gs gs' : List Generator) (question : Option String) (w : World) :
    askEach (gs ++ gs') question w = ((askEach gs question w).1 ++
        (askEach gs' question (askEach gs question w).2).1,
      (askEach gs' question (askEach gs question w).2).2) := by
  rw [askEach, List.map_append, inTurn_append]
  rfl

theorem leaves_ne_nil (g : Generator) : g.leaves ≠ [] := by
  induction g with
  | chain first second ihFirst _ => exact List.append_ne_nil_of_left_ne_nil ihFirst _
  | only second ih => exact ih
  | _ => exact List.cons_ne_nil _ _

theorem head?_leaves_chain (first second : Generator) :
    (chain first second).leaves.head? = first.leaves.head? := by
  rw [leaves, List.head?_append_of_ne_nil _ first.leaves_ne_nil]

theorem GivesUp.ne_nil (h : g.GivesUp question w tried f) : tried ≠ [] := by
  rintro rfl
  cases h.first

theorem GivesUp.isGenerationFailure (h : g.GivesUp question w tried f)
    (hall : AreGenerationFailures (askEach tried question w).1) : f.isGenerationFailure = true := by
  obtain ⟨f', hf', hp⟩ := hall _ (List.mem_of_mem_head? h.first)
  rw [Except.error.inj hf']
  exact hp

/-- What comes of a leaf on its own. -/
theorem finds_or_givesUp_leaf (g : Generator) (h : g.leaves = [g]) (question : Option String)
    (w : World) :
    (∃ failed last generated, g.FindsAt question w failed last generated) ∨
      ∃ tried f, g.GivesUp question w tried f := by
  cases hrun : g.generate question w with
  | mk r w' =>
    have hask : askEach [g] question w = ([r], w') := by
      rw [askEach, List.map_singleton, inTurn, hrun]
      rfl
    cases r with
    | ok generated =>
      refine Or.inl ⟨[], g, generated, ?_, ?_, fun r hr => absurd hr List.not_mem_nil, ?_, rfl,
        fun _ => ?_⟩
      · rw [h]
        exact List.Sublist.refl _
      · rw [h, List.nil_append]
      · exact congrArg Prod.fst hrun
      · rw [h]
        exact List.prefix_rfl
    | error f =>
      refine Or.inr ⟨[g], f, ?_, ?_, fun r hr => ?_, ?_, ?_, fun _ => h.symm⟩
      · rw [h]
      · rw [h]
      · rw [hask] at hr
        rw [List.mem_singleton.1 hr]
        exact fails_error f
      · rw [hask]
        rfl
      · rw [hask, hrun]

theorem FindsAt.chain_left (h : first.FindsAt question w failed last generated)
    (second : Generator) : (chain first second).FindsAt question w failed last generated where
  sublist := h.sublist.trans (List.sublist_append_left _ _)
  head := by rw [head?_leaves_chain, h.head]
  fails := h.fails
  found := h.found
  run := by
    have hok : first.generate question w = (.ok generated, (first.generate question w).2) := by
      rw [h.run]
      exact Prod.ext h.found rfl
    rw [← h.run]
    exact (orElseIf_of_ok hok).trans hok.symm
  all hall := (h.all hall).trans (List.prefix_append _ _)

theorem GivesUp.chain_left (h : first.GivesUp question w tried f)
    (hother : f.isGenerationFailure = false) (second : Generator) :
    (chain first second).GivesUp question w tried f where
  sublist := h.sublist.trans (List.sublist_append_left _ _)
  head := by rw [head?_leaves_chain, h.head]
  fails := h.fails
  first := h.first
  run := orElseIf_of_other h.run hother
  all hall := absurd (h.isGenerationFailure hall) (Bool.eq_false_iff.1 hother)

/-- The second part is asked in the world that the leaves of the first one leave. -/
theorem GivesUp.chain_found (h : first.GivesUp question w tried f)
    (hgeneration : f.isGenerationFailure = true)
    (hsecond : second.FindsAt question (askEach tried question w).2 failed last generated) :
    (chain first second).FindsAt question w (tried ++ failed) last generated where
  sublist := by
    rw [List.append_assoc]
    exact h.sublist.append hsecond.sublist
  head := by
    rw [head?_leaves_chain, List.append_assoc, List.head?_append_of_ne_nil _ h.ne_nil, h.head]
  fails r hr := by
    rw [askEach_append] at hr
    exact (List.mem_append.1 hr).elim (h.fails r) (hsecond.fails r)
  found := by
    rw [askEach_append]
    exact hsecond.found
  run := by
    have hok : second.generate question (askEach tried question w).2 =
        (.ok generated, (second.generate question (askEach tried question w).2).2) := by
      rw [hsecond.run]
      exact Prod.ext hsecond.found rfl
    rw [askEach_append, ← hsecond.run]
    exact ((orElseIf_of_error h.run hgeneration).trans (orElseIf_of_ok hok)).trans hok.symm
  all hall := by
    rw [askEach_append] at hall
    rw [h.all fun r hr => hall r (List.mem_append_left _ hr), List.append_assoc, leaves,
      List.prefix_append_right_inj]
    exact hsecond.all fun r hr => hall r (List.mem_append_right _ hr)

/-- If the second part fails too, whatever its failure is, the first failure counts. -/
theorem GivesUp.chain_failed (h : first.GivesUp question w tried f)
    (hgeneration : f.isGenerationFailure = true)
    (hsecond : second.GivesUp question (askEach tried question w).2 tried' f') :
    (chain first second).GivesUp question w (tried ++ tried') f where
  sublist := h.sublist.append hsecond.sublist
  head := by rw [head?_leaves_chain, List.head?_append_of_ne_nil _ h.ne_nil, h.head]
  fails r hr := by
    rw [askEach_append] at hr
    exact (List.mem_append.1 hr).elim (h.fails r) (hsecond.fails r)
  first := by
    rw [askEach_append, List.head?_append, h.first]
    rfl
  run := by
    rw [askEach_append]
    exact (orElseIf_of_error h.run hgeneration).trans (orElseIf_of_error hsecond.run rfl)
  all hall := by
    rw [askEach_append] at hall
    rw [leaves, h.all fun r hr => hall r (List.mem_append_left _ hr),
      hsecond.all fun r hr => hall r (List.mem_append_right _ hr)]

/-- A tree finds a statement at one of its leaves, or all the leaves that it tries fail. -/
theorem finds_or_givesUp (g : Generator) (question : Option String) (w : World) :
    (∃ failed last generated, g.FindsAt question w failed last generated) ∨
      ∃ tried f, g.GivesUp question w tried f := by
  induction g generalizing w with
  | rules book => exact finds_or_givesUp_leaf (rules book) rfl question w
  | model query => exact finds_or_givesUp_leaf (model query) rfl question w
  | scripted run => exact finds_or_givesUp_leaf (scripted run) rfl question w
  | only second ih =>
    rcases ih w with ⟨failed, last, generated, h⟩ | ⟨tried, f, h⟩
    · exact Or.inl ⟨failed, last, generated, h.sublist, h.head, h.fails, h.found, h.run, h.all⟩
    · exact Or.inr ⟨tried, f, h.sublist, h.head, h.fails, h.first, h.run, h.all⟩
  | chain first second ihFirst ihSecond =>
    rcases ihFirst w with ⟨failed, last, generated, h⟩ | ⟨tried, f, h⟩
    · exact Or.inl ⟨failed, last, generated, h.chain_left second⟩
    · by_cases hgeneration : f.isGenerationFailure = true
      · rcases ihSecond (askEach tried question w).2 with
          ⟨failed, last, generated, hsecond⟩ | ⟨tried', f', hsecond⟩
        · exact Or.inl ⟨_, last, generated, h.chain_found hgeneration hsecond⟩
        · exact Or.inr ⟨_, f, h.chain_failed hgeneration hsecond⟩
      · exact Or.inr ⟨tried, f, h.chain_left (Bool.eq_false_iff.2 hgeneration) second⟩

/-- A leaf that fails for another cause takes the leaf behind it along, which is passed over. -/
example :
    ((chain
      (chain (scripted fun _ => throw .noStatement)
        (chain (scripted fun _ => throw .wrongKind)
          (scripted fun _ => return ⟨"SELECT 1", "third"⟩)))
      (scripted fun _ => return ⟨"SELECT 1", "fourth"⟩)).generate none World.bare).1 =
        .ok ⟨"SELECT 1", "fourth"⟩ :=
  rfl

end Generator

/-- Every tree of executors runs its leaves from left to right up to the first that does not fail
remotely, and every tree of generators tries some of its leaves from left to right, with what comes
of that. -/
theorem exists_leaves_in_turn (e : Executor) (statement : String) (g : Generator)
    (question : Option String) (w : World) :
    (∃ before last after, e.RunsTo statement w before last after) ∧
      ((∃ failed last generated, g.FindsAt question w failed last generated) ∨
        ∃ tried f, g.GivesUp question w tried f) :=
  ⟨e.exists_runsTo statement w, g.finds_or_givesUp question w⟩

end TableTalk

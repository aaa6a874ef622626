import Mathlib
import TableTalk.Generation.Generator
import TableTalk.Proofs.Generation.Rules
import TableTalk.Proofs.World.Action

/-!
# A generator that never fails

The language model with the standard keyword rules behind it has a statement for every question. The
model's answer is the statement wherever there is one in it; in all other cases the rules decide.
The model is called once where there is a prompt to call it with, and not at all otherwise. There is
no prompt for a blank question, and none for a limit with too many digits to be written.
-/

namespace TableTalk

open Text Generation TableTalk.Action

namespace Generation

theorem trim_clean (answer : String) : trim (clean answer) = clean answer := by
  rw [clean, trim, String.toList_ofList, cleanChars, trimChars_trimChars]

theorem not_infix_firstParagraph (cs : List Char) : ¬ ['\n', '\n'] <:+: firstParagraph cs := by
  rw [firstParagraph]
  cases hcut : cutAt? ['\n', '\n'] cs with
  | none => exact not_infix_of_cutAt?_eq_none hcut
  | some parts => exact (not_infix_of_cutAt? (List.cons_ne_nil _ _) hcut).2

theorem not_isWithin_clean (answer : String) : ¬ IsWithin "\n\n" (clean answer) := by
  have hword : "\n\n".toList = ['\n', '\n'] := by decide
  rw [IsWithin, hword, clean, String.toList_ofList, cleanChars]
  exact fun h => not_infix_firstParagraph _ (h.trans (infix_trimChars _))

end Generation

namespace ModelQuery

/-- There is a prompt for the question: it is not blank, and the limit has no more digits than can
be written. -/
def HasPrompt (q : ModelQuery) (question : Option String) : Prop :=
  allBlank (question.getD "").toList = false ∧ q.limit.natAbs < 10 ^ digitLimit

instance (q : ModelQuery) (question : Option String) : Decidable (q.HasPrompt question) := by
  unfold HasPrompt
  infer_instance

def callsFor (q : ModelQuery) (question : Option String) : List Model.Call :=
  if q.HasPrompt question then [⟨q.model, q.prompt (question.getD ""), q.maxTokens⟩] else []

/-- There is a prompt, the model replies to it, the reply can be read, and the statement that is
left of it is not empty. -/
def Finds (q : ModelQuery) (question : Option String) (model : Model.Service) (statement : String) :
    Prop :=
  q.HasPrompt question ∧ ∃ reply answer, model.next = .reply reply ∧
    reply.spoken = .ok answer ∧ statement = clean answer ∧ statement ≠ ""

def called (w : World) (calls : List Model.Call) : World :=
  { w with model := { w.model with calls := w.model.calls ++ calls } }

variable {q : ModelQuery} {question : Option String} {w : World}

theorem called_nil (w : World) : called w [] = w := by
  rw [called, List.append_nil]

theorem hasHugeLimit_eq_false_iff :
    q.hasHugeLimit = false ↔ q.limit.natAbs < 10 ^ digitLimit := by
  rw [hasHugeLimit, decide_eq_false_iff_not, Nat.not_le, Nat.pow_eq]

theorem ask_of_hasHugeLimit (h : q.hasHugeLimit = true) (text : String) (w : World) :
    q.ask text w = (.error (.modelCall hugeLimitMessage), w) := by
  rw [ask, if_pos h]
  rfl

def said (model : Model.Service) : Except Failure String :=
  match model.next with
  | .reply reply => reply.spoken
  | .broken message => .error (.modelCall message)

theorem said_eq_ok_iff {model : Model.Service} {answer : String} :
    said model = .ok answer ↔ ∃ reply, model.next = .reply reply ∧ reply.spoken = .ok answer := by
  rw [said]
  cases model.next with
  | reply reply => simp
  | broken message => simp

theorem ask_of_hasPrompt (h : q.HasPrompt question) (w : World) :
    q.ask (question.getD "") w = (said w.model, called w (q.callsFor question)) := by
  rw [ask, if_neg (Bool.eq_false_iff.1 (hasHugeLimit_eq_false_iff.2 h.2)), callsFor, if_pos h, said]
  cases hnext : w.model.next with
  | reply reply =>
    refine bind_of_ok ?_
    rw [World.callModel, bind_of_ok (get_run w), Model.Service.call, hnext]
    rfl
  | broken message =>
    refine bind_of_error ?_
    rw [World.callModel, bind_of_ok (get_run w), Model.Service.call, hnext]
    rfl

theorem finds_iff {model : Model.Service} {statement : String} (h : q.HasPrompt question) :
    q.Finds question model statement ↔
      ∃ answer, said model = .ok answer ∧ statement = clean answer ∧ statement ≠ "" := by
  constructor
  · rintro ⟨-, reply, answer, hreply, hanswer, hstatement⟩
    exact ⟨answer, said_eq_ok_iff.2 ⟨reply, hreply, hanswer⟩, hstatement⟩
  · rintro ⟨answer, hsaid, hstatement⟩
    obtain ⟨reply, hreply, hanswer⟩ := said_eq_ok_iff.1 hsaid
    exact ⟨h, reply, answer, hreply, hanswer, hstatement⟩

theorem generate_of_blank (h : allBlank (question.getD "").toList = true) (w : World) :
    q.generate question w = (.error .emptyQuestion, w) := by
  rw [generate]
  dsimp only
  rw [if_pos h]
  rfl

theorem generate_of_ask_error {f : Failure} {w' : World}
    (h : allBlank (question.getD "").toList = false)
    (hask : q.ask (question.getD "") w = (.error f, w')) :
    q.generate question w = (.error (.modelFailed f.message), w') := by
  rw [generate]
  dsimp only
  rw [if_neg (Bool.eq_false_iff.1 h)]
  exact bind_of_error (orElseIf_of_error hask rfl)

theorem generate_of_ask_ok {answer : String} {w' : World}
    (h : allBlank (question.getD "").toList = false)
    (hask : q.ask (question.getD "") w = (.ok answer, w')) :
    q.generate question w =
      (if clean answer = "" then .error .noStatement else .ok ⟨clean answer, "llm"⟩, w') := by
  rw [generate]
  dsimp only
  rw [if_neg (Bool.eq_false_iff.1 h)]
  refine (bind_of_ok (orElseIf_of_ok hask)).trans ?_
  by_cases hempty : clean answer = ""
  · rw [if_pos hempty, if_pos hempty]
    rfl
  · rw [if_neg hempty, if_neg hempty]
    rfl

theorem generate_of_hasPrompt (h : q.HasPrompt question) (w : World) :
    (∃ statement, q.Finds question w.model statement ∧ q.generate question w =
        (.ok ⟨statement, "llm"⟩, called w (q.callsFor question))) ∨
      (∀ statement, ¬ q.Finds question w.model statement) ∧
        ∃ f : Failure, f.isGenerationFailure = true ∧
          q.generate question w = (.error f, called w (q.callsFor question)) := by
  have hask := ask_of_hasPrompt h w
  cases hsaid : said w.model with
  | error f =>
    rw [hsaid] at hask
    refine Or.inr ⟨fun statement hfinds => ?_, _, rfl, generate_of_ask_error h.1 hask⟩
    obtain ⟨answer, hanswer, -⟩ := (finds_iff h).1 hfinds
    cases hsaid.symm.trans hanswer
  | ok answer =>
    rw [hsaid] at hask
    have hrun := generate_of_ask_ok h.1 hask
    by_cases hempty : clean answer = ""
    · rw [if_pos hempty] at hrun
      refine Or.inr ⟨fun statement hfinds => ?_, _, rfl, hrun⟩
      obtain ⟨other, hother, rfl, hne⟩ := (finds_iff h).1 hfinds
      obtain rfl := Except.ok.inj (hsaid.symm.trans hother)
      exact hne hempty
    · rw [if_neg hempty] at hrun
      exact Or.inl ⟨clean answer, (finds_iff h).2 ⟨answer, hsaid, rfl, hempty⟩, hrun⟩

theorem generate_of_not_hasPrompt (h : ¬ q.HasPrompt question) (w : World) :
    ∃ f : Failure, f.isGenerationFailure = true ∧ q.generate question w = (.error f, w) := by
  by_cases hblank : allBlank (question.getD "").toList = true
  · exact ⟨_, rfl, generate_of_blank hblank w⟩
  · have htext := Bool.eq_false_iff.2 hblank
    have hhuge : q.hasHugeLimit = true := by
      rw [← Bool.not_eq_false, hasHugeLimit_eq_false_iff]
      exact fun hlimit => h ⟨htext, hlimit⟩
    exact ⟨_, rfl, generate_of_ask_error htext (ask_of_hasHugeLimit hhuge _ w)⟩

/-- The model finds a statement, or fails in a way that makes room for the rules. -/
theorem generate_cases (q : ModelQuery) (question : Option String) (w : World) :
    (∃ statement, q.Finds question w.model statement ∧ q.generate question w =
        (.ok ⟨statement, "llm"⟩, called w (q.callsFor question))) ∨
      (∀ statement, ¬ q.Finds question w.model statement) ∧
        ∃ f : Failure, f.isGenerationFailure = true ∧
          q.generate question w = (.error f, called w (q.callsFor question)) := by
  by_cases hprompt : q.HasPrompt question
  · exact generate_of_hasPrompt hprompt w
  · rw [callsFor, if_neg hprompt, called_nil]
    exact Or.inr ⟨fun _ hfinds => hprompt hfinds.1, generate_of_not_hasPrompt hprompt w⟩

end ModelQuery

namespace Generator

/-- The language model, with the standard keyword rules where it has no statement. -/
def modelOrRules (q : ModelQuery) (table : String) : Generator :=
  .chain (.model q) (.rules (RuleBook.standard table))

variable (q : ModelQuery) (table : String) (question : Option String) (w : World)

/-- The chain says what the model finds and otherwise what the rules say; the calls of the model are
all that the world sees. -/
theorem generate_modelOrRules : ∃ generated,
    (modelOrRules q table).generate question w =
        (.ok generated, ModelQuery.called w (q.callsFor question)) ∧
      (generated.source = "llm" ↔ ∃ statement, q.Finds question w.model statement) ∧
      (∀ statement, q.Finds question w.model statement → generated.statement = statement ∧
        trim statement = statement ∧ ¬ IsWithin "\n\n" statement) ∧
      ((∀ statement, ¬ q.Finds question w.model statement) → generated.source = "rules" ∧
        ∃ template, (RuleBook.standard table).Chooses (lower (question.getD "")) template ∧
          IsFilled table template generated.statement) := by
  rw [modelOrRules, generate]
  rcases q.generate_cases question w with ⟨statement, hfinds, hrun⟩ | ⟨hnone, f, hf, hrun⟩
  · have hunique : ∀ other, q.Finds question w.model other → other = statement := by
      rintro other ⟨-, reply, answer, hreply, hanswer, rfl, -⟩
      obtain ⟨-, reply', answer', hreply', hanswer', rfl, -⟩ := hfinds
      rw [hreply] at hreply'
      rw [← Model.Outcome.reply.inj hreply', hanswer] at hanswer'
      rw [Except.ok.inj hanswer']
    refine ⟨⟨statement, "llm"⟩, orElseIf_of_ok hrun, iff_of_true rfl ⟨statement, hfinds⟩, ?_,
      fun hnone => absurd hfinds (hnone statement)⟩
    intro other hother
    have hsame := hunique other hother
    obtain ⟨-, -, answer, -, -, rfl, -⟩ := hother
    exact ⟨hsame.symm, trim_clean answer, not_isWithin_clean answer⟩
  · obtain ⟨sides, -, hfilled, hstatement⟩ :=
      RuleBook.exists_statementFor_standard table (question.getD "")
    have hrules : (rules (RuleBook.standard table)).generate question
        (ModelQuery.called w (q.callsFor question)) =
          (.ok ⟨sides.1 ++ table ++ sides.2, "rules"⟩,
            ModelQuery.called w (q.callsFor question)) := by
      rw [generate, hstatement]
      rfl
    refine ⟨⟨sides.1 ++ table ++ sides.2, "rules"⟩,
      (orElseIf_of_error hrun hf).trans (orElseIf_of_ok hrules),
      iff_of_false (show "rules" ≠ "llm" by decide) fun ⟨statement, h⟩ => hnone statement h,
      fun statement h => absurd h (hnone statement), fun _ => ⟨rfl, _, ?_, hfilled⟩⟩
    exact RuleBook.chooses_templateFor _ _

def unwritable : ModelQuery :=
  ⟨"m", "", 10 ^ digitLimit, some 150⟩

def replying (text : String) : World :=
  { World.bare with model := ⟨true, [.reply (.object [("output_text", .text text)])], []⟩ }

/-- The model would have had a statement, but was not asked. -/
theorem generate_modelOrRules_unwritable :
    allBlank "hello".toList = false ∧
      (∃ reply, (replying "SELECT a FROM t").model.next = .reply reply ∧
        reply.spoken = .ok "SELECT a FROM t") ∧
      clean "SELECT a FROM t" = "SELECT a FROM t" ∧
      (modelOrRules unwritable "t").generate (some "hello") (replying "SELECT a FROM t") =
        (.ok ⟨"SELECT * FROM t LIMIT 20", "rules"⟩, replying "SELECT a FROM t") := by
  have hhuge : unwritable.hasHugeLimit = true := by
    rw [← Bool.not_eq_false, ModelQuery.hasHugeLimit_eq_false_iff, Nat.not_lt, unwritable,
      Int.natAbs_pow]
    exact Nat.pow_le_pow_left (by decide) digitLimit
  have hblank : allBlank "hello".toList = false := by decide
  have hstatement : (RuleBook.standard "t").statementFor "hello" =
      .ok "SELECT * FROM t LIMIT 20" := by
    rfl
  have hask := ModelQuery.ask_of_hasHugeLimit hhuge "hello" (replying "SELECT a FROM t")
  have hmodel : unwritable.generate (some "hello") (replying "SELECT a FROM t") =
      (.error (.modelFailed (Failure.modelCall ModelQuery.hugeLimitMessage).message),
        replying "SELECT a FROM t") :=
    ModelQuery.generate_of_ask_error hblank hask
  have hrules : (rules (RuleBook.standard "t")).generate (some "hello")
      (replying "SELECT a FROM t") = (.ok ⟨"SELECT * FROM t LIMIT 20", "rules"⟩, replying "SELECT a FROM t") := by
    rw [generate, Option.getD_some, hstatement]
    rfl
  refine ⟨hblank, ⟨_, rfl, rfl⟩, by decide, ?_⟩
  rw [modelOrRules, generate]
  exact (orElseIf_of_error hmodel rfl).trans (orElseIf_of_ok hrules)

end Generator

end TableTalk

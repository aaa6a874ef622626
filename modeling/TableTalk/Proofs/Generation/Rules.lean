import Mathlib.Data.List.TakeWhile
import TableTalk.Generation.Rules
import TableTalk.Proofs.Text.Search
import TableTalk.Text.Template

/-!
# What the keyword rules say

A template with one hole, named and nothing else, and no brace beside it is filled by putting the
value where the hole stands, whatever characters the value has.

The statement for a question is the template of the first rule that the question matches, with the
name of the table in the place of its hole. The templates in use have one hole each and no other
brace, so that there is a statement for every question and every name of a table.
-/

namespace TableTalk.Text.Template

def HasNoBrace (cs : List Char) : Prop :=
  ∀ c ∈ cs, c ≠ '{' ∧ c ≠ '}'

instance (cs : List Char) : Decidable (HasNoBrace cs) :=
  List.decidableBAll _ cs

def IsHoleName (name : List Char) : Prop :=
  (∀ c ∈ name, c ∉ ['{', '}', ':', '!', '[', '.']) ∧ name.all isDigit = false

instance (name : List Char) : Decidable (IsHoleName name) :=
  have := List.decidableBAll (fun c => c ∉ ['{', '}', ':', '!', '[', '.']) name
  inferInstanceAs (Decidable (_ ∧ _))

def holeFor (name : List Char) : List Char :=
  '{' :: (name ++ ['}'])

variable {name value before after : List Char}

theorem pieces_append (hbefore : HasNoBrace before) (fuel : Nat) (rest : List Char) :
    pieces (before.length + fuel) (before ++ rest) =
      before.map Piece.literal ++ pieces fuel rest := by
  induction before with
  | nil => simp
  | cons c before ih =>
    have hc : c ≠ '{' ∧ c ≠ '}' := hbefore c List.mem_cons_self
    have hstep : pieces (before.length + fuel + 1) (c :: (before ++ rest)) =
        .literal c :: pieces (before.length + fuel) (before ++ rest) := by
      rw [pieces] <;> simp_all
    rw [List.length_cons, Nat.add_right_comm, List.cons_append, hstep,
      ih fun d hd => hbefore d (List.mem_cons_of_mem c hd)]
    rfl

theorem pieces_of_hasNoBrace {fuel : Nat} (hbefore : HasNoBrace before)
    (hfuel : before.length ≤ fuel) : pieces fuel before = before.map Piece.literal := by
  obtain ⟨extra, rfl⟩ := Nat.exists_eq_add_of_le hfuel
  have hend : pieces extra [] = [] := by
    cases extra <;> rfl
  have happend := pieces_append hbefore extra []
  rwa [List.append_nil, hend, List.append_nil] at happend

theorem takePath_name (hname : IsHoleName name) (after : List Char) :
    takePath false (name ++ '}' :: after) = some (name, '}' :: after) := by
  have hchars : ∀ c ∈ name, c ∉ ['{', '}', ':', '!', '[', '.'] := hname.1
  clear hname
  induction name with
  | nil => rfl
  | cons c name ih =>
    have hc : c ∉ ['{', '}', ':', '!', '[', '.'] := hchars c List.mem_cons_self
    simp only [List.mem_cons, List.not_mem_nil, or_false, not_or] at hc
    obtain ⟨hopen, hclose, hcolon, hmark, hbracket, -⟩ := hc
    rw [List.cons_append, takePath, if_neg Bool.false_ne_true, if_neg hopen,
      if_neg (by simp [hclose, hcolon, hmark]), decide_eq_false hbracket,
      ih fun d hd => hchars d (List.mem_cons_of_mem c hd)]
    rfl

theorem pieces_holeFor (hname : IsHoleName name) (fuel : Nat) (after : List Char) :
    pieces (fuel + 1) (holeFor name ++ after) = .hole name none [] :: pieces fuel after := by
  have htake : takeHole (name ++ '}' :: after) = some (.hole name none [], after) := by
    rw [takeHole, takePath_name hname]
    rfl
  have hhole : holeFor name ++ after = '{' :: (name ++ '}' :: after) := by
    simp [holeFor]
  rw [hhole]
  cases hcases : name ++ '}' :: after with
  | nil => simp at hcases
  | cons c rest =>
    have hopen : c ≠ '{' := by
      cases name with
      | nil => exact absurd hname.2 (by decide)
      | cons d name =>
        obtain ⟨rfl, -⟩ := List.cons.inj hcases
        have hd := hname.1 d List.mem_cons_self
        simp_all
    rw [hcases] at htake
    rw [pieces, htake]
    · exact fun rest' hrest => hopen (List.cons.inj hrest).1
    · exact List.cons_ne_nil c rest

theorem splitPath_name (hname : IsHoleName name) : splitPath name = (name, []) := by
  have hinside : ∀ c ∈ name, decide (c ≠ '.' ∧ c ≠ '[') = true := by
    intro c hc
    have := hname.1 c hc
    simp_all
  rw [splitPath, List.takeWhile_eq_self_iff.2 hinside, List.dropWhile_eq_nil_iff.2 hinside]

theorem lookUp_name (hname : IsHoleName name) (value : List Char) :
    lookUp name value name = .ok (.text value) := by
  rw [lookUp, splitPath_name hname]
  dsimp only
  rw [if_neg (Bool.eq_false_iff.1 hname.2), if_neg (not_not_intro rfl)]
  rfl

/-- Literal pieces are put one after the other. -/
theorem foldl_literal
    {step : Except Failure (List Char) → Piece → Except Failure (List Char)}
    (hstep : ∀ done c, step (.ok done) (.literal c) = .ok (done ++ [c])) (done : List Char) :
    (before.map Piece.literal).foldl step (.ok done) = .ok (done ++ before) := by
  induction before generalizing done with
  | nil => simp
  | cons c before ih => rw [List.map_cons, List.foldl_cons, hstep, ih, List.append_assoc]; rfl

theorem fillChars_holeFor (hname : IsHoleName name) (hbefore : HasNoBrace before)
    (hafter : HasNoBrace after) (depth : Nat) :
    fillChars name value (depth + 1) (before ++ (holeFor name ++ after)) =
      .ok (before ++ (value ++ after)) := by
  have hlength : (before ++ (holeFor name ++ after)).length + 1 =
      before.length + (after.length + (holeFor name).length + 1) := by
    simp only [List.length_append]
    omega
  have hpieces : pieces ((before ++ (holeFor name ++ after)).length + 1)
      (before ++ (holeFor name ++ after)) =
        before.map Piece.literal ++ .hole name none [] :: after.map Piece.literal := by
    rw [hlength, pieces_append hbefore, pieces_holeFor hname,
      pieces_of_hasNoBrace hafter (Nat.le_add_right _ _)]
  rw [fillChars, hpieces, List.foldl_append, foldl_literal (fun _ _ => rfl), List.foldl_cons]
  refine Eq.trans (congrArg (fun done => List.foldl _ done _)
    (?_ : _ = Except.ok (before ++ value))) ?_
  · simp only [lookUp_name hname]
    rfl
  · rw [foldl_literal (fun _ _ => rfl), List.append_assoc]

/-- A template with one hole takes the value there and keeps the text around it. -/
theorem fill_hole {name before after : String} (hname : IsHoleName name.toList)
    (hbefore : HasNoBrace before.toList) (hafter : HasNoBrace after.toList) (value : String) :
    fill name value (before ++ ("\x7b" ++ name ++ "\x7d") ++ after) =
      .ok (before ++ value ++ after) := by
  have htemplate : (before ++ ("\x7b" ++ name ++ "\x7d") ++ after).toList =
      before.toList ++ (holeFor name.toList ++ after.toList) := by
    simp [holeFor]
  have hfilled : before ++ value ++ after =
      String.ofList (before.toList ++ (value.toList ++ after.toList)) := by
    simp [String.append_assoc]
  rw [fill, htemplate, fillChars_holeFor hname hbefore hafter, hfilled]
  rfl

end TableTalk.Text.Template

namespace TableTalk.Generation

open Text Template

/-- The question has all the words that a rule requires, and one of those it offers, if any. -/
def Rule.Matches (r : Rule) (question : String) : Prop :=
  (∀ word ∈ r.required, IsWithin word question) ∧
    (r.anyOf = [] ∨ ∃ word ∈ r.anyOf, IsWithin word question)

theorem Rule.fits_eq_true_iff {r : Rule} {question : String} :
    r.fits question = true ↔ r.Matches question := by
  simp only [Rule.fits, Rule.Matches, Bool.and_eq_true, Bool.or_eq_true, List.all_eq_true,
    List.any_eq_true, List.isEmpty_iff, contains_eq_true_iff]

def IsFilled (table template statement : String) : Prop :=
  ∃ before after : String, HasNoBrace before.toList ∧ HasNoBrace after.toList ∧
    template = before ++ "\x7btable\x7d" ++ after ∧ statement = before ++ table ++ after

theorem fill_of_isFilled {table template statement : String}
    (h : IsFilled table template statement) :
    Template.fill "table" table template = .ok statement := by
  obtain ⟨before, after, hbefore, hafter, rfl, rfl⟩ := h
  exact fill_hole (by decide) hbefore hafter table

namespace RuleBook

/-- The template is that of the first rule that the question matches, or the default one if it
matches none. -/
def Chooses (b : RuleBook) (question template : String) : Prop :=
  (∃ r earlier later, b.rules = earlier ++ r :: later ∧ r.Matches question ∧
      (∀ e ∈ earlier, ¬ e.Matches question) ∧ template = r.template) ∨
    (∀ r ∈ b.rules, ¬ r.Matches question) ∧ template = b.default

theorem chooses_templateFor (b : RuleBook) (question : String) :
    b.Chooses (lower question) (b.templateFor question) := by
  rw [templateFor]
  cases hfind : b.rules.find? fun r => r.fits (lower question) with
  | none =>
    refine Or.inr ⟨fun r hr hmatches => ?_, rfl⟩
    exact List.find?_eq_none.1 hfind r hr (Rule.fits_eq_true_iff.2 hmatches)
  | some r =>
    obtain ⟨hfits, earlier, later, hrules, hearlier⟩ := List.find?_eq_some_iff_append.1 hfind
    refine Or.inl ⟨r, earlier, later, hrules, Rule.fits_eq_true_iff.1 hfits, ?_, rfl⟩
    intro e he hmatches
    have hno := hearlier e he
    rw [Rule.fits_eq_true_iff.2 hmatches] at hno
    exact absurd hno (by decide)

def templates (b : RuleBook) : List String :=
  b.default :: b.rules.map Rule.template

theorem mem_templates_of_chooses {b : RuleBook} {question template : String}
    (h : b.Chooses question template) : template ∈ b.templates := by
  rcases h with ⟨r, earlier, later, hrules, -, -, rfl⟩ | ⟨-, rfl⟩
  · refine List.mem_cons_of_mem _ (List.mem_map_of_mem ?_)
    rw [hrules]
    exact List.mem_append_right _ List.mem_cons_self
  · exact List.mem_cons_self

def standardSides : List (String × String) := [
  ("SELECT * FROM ", " LIMIT 20"),
  ("SELECT * FROM ", " LIMIT 100"),
  ("SELECT * FROM ", " WHERE Variable_name = 'Total income' LIMIT 50"),
  ("SELECT * FROM ", " WHERE Industry_name_NZSIOC LIKE '%Agriculture%' LIMIT 50"),
  ("SELECT * FROM ", " WHERE Variable_category = 'Financial performance' LIMIT 50"),
  ("SELECT * FROM ", " WHERE Variable_category = 'Employment' LIMIT 50"),
  ("SELECT Industry_name_NZSIOC, Value FROM ",
    " WHERE Variable_name = 'Total income' ORDER BY CAST(Value AS DECIMAL) DESC LIMIT 10")]

theorem templates_standard (table : String) :
    (standard table).templates =
      standardSides.map fun (before, after) => before ++ "\x7btable\x7d" ++ after := by
  rfl

theorem hasNoBrace_standardSides :
    ∀ sides ∈ standardSides, HasNoBrace sides.1.toList ∧ HasNoBrace sides.2.toList := by
  decide

/-- The standard rules have a statement for every question. -/
theorem exists_statementFor_standard (table question : String) :
    ∃ sides ∈ standardSides,
      IsFilled table ((standard table).templateFor question) (sides.1 ++ table ++ sides.2) ∧
        (standard table).statementFor question = .ok (sides.1 ++ table ++ sides.2) := by
  have hmem := mem_templates_of_chooses (chooses_templateFor (standard table) question)
  rw [templates_standard] at hmem
  obtain ⟨sides, hsides, htemplate⟩ := List.mem_map.1 hmem
  obtain ⟨hbefore, hafter⟩ := hasNoBrace_standardSides sides hsides
  have hfilled : IsFilled table ((standard table).templateFor question)
      (sides.1 ++ table ++ sides.2) :=
    ⟨sides.1, sides.2, hbefore, hafter, htemplate.symm, rfl⟩
  exact ⟨sides, hsides, hfilled, fill_of_isFilled hfilled⟩

end RuleBook

end TableTalk.Generation

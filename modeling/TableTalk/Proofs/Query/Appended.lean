import TableTalk.Proofs.Query.Addition
import TableTalk.Proofs.Query.Strictness
import TableTalk.Proofs.Text.Lower

/-!
# A limit added behind a query

A limit is added behind a query text that holds none. A `where` at the end of the text gets the
limit for a condition, which is of no form that is interpreted, so every row meets it as before.
Nothing else changes but the limit, and the answer is cut to its first rows.
-/

namespace TableTalk.Query

open Text

theorem ended_of_getLast? {y : List Char} (hne : y ≠ [])
    (h : ∀ c ∈ y.getLast?, isBlank c = false) : Ended y :=
  ⟨y.dropLast, y.getLast hne, (List.dropLast_append_getLast hne).symm,
    h _ (List.getLast?_eq_some_getLast hne)⟩

theorem ended_normalize {text : String} (hne : normalize text ≠ []) : Ended (normalize text) := by
  obtain ⟨_, _, _, _, _, _, hlast⟩ := exists_trimChars (lowerChars text.toList)
  exact ended_of_getLast? hne hlast

theorem lowerChars_append_limit (cs : List Char) (n : Decimal) :
    lowerChars (cs ++ ([' ', 'L', 'I', 'M', 'I', 'T', ' '] ++ n.digits)) =
      lowerChars cs ++ (' ' :: (limitWord ++ ' ' :: n.digits)) := by
  have hdigits : IsAscii n.digits := fun c hc => toNat_lt_of_isWordAscii (n.isWordAscii_of_mem c hc)
  have hascii : IsAscii ([' ', 'L', 'I', 'M', 'I', 'T', ' '] ++ n.digits) :=
    IsAscii.append (by decide) hdigits
  rw [lowerChars_append_ascii cs hascii rfl, List.map_append, n.map_toLower]
  rfl

theorem normalize_append {text digits : String} {n : Decimal} (hn : digits.toList = n.digits)
    (hne : normalize text ≠ []) :
    ∃ r, IsAddition n r ∧ normalize (text ++ " LIMIT " ++ digits) = normalize text ++ r := by
  obtain ⟨w, w', hw, hw', hcs, hhead, -⟩ := exists_trimChars (lowerChars text.toList)
  rw [← normalize] at hcs hhead
  have hgap : IsGap (w' ++ [' ']) := by
    refine ⟨by simp, ?_⟩
    rw [allBlank, List.all_append, ← allBlank, hw']
    rfl
  let r := (w' ++ [' ']) ++ (limitWord ++ ([' '] ++ n.digits))
  have hadded : lowerChars text.toList ++ (' ' :: (limitWord ++ ' ' :: n.digits)) =
      w ++ ((normalize text ++ r) ++ []) := by
    simp [hcs, r]
  have hended : Ended (normalize text ++ r) :=
    (((n.ended.append [' ']).append limitWord).append (w' ++ [' '])).append (normalize text)
  have hkeyword : " LIMIT ".toList = [' ', 'L', 'I', 'M', 'I', 'T', ' '] := rfl
  refine ⟨r, ⟨w' ++ [' '], [' '], hgap, by decide, rfl⟩, ?_⟩
  rw [normalize, String.toList_append, String.toList_append, hkeyword, hn, List.append_assoc,
    lowerChars_append_limit, hadded]
  apply trimChars_append hw rfl _ hended.getLast?
  rw [List.head?_append_of_ne_nil _ hne]
  exact hhead

theorem likeHere_eq_none {cs : List Char} (h : ¬ likeWord <:+: cs) : likeHere cs = none := by
  rw [likeHere]
  cases htaken : takeWord? cs with
  | none => rfl
  | some found =>
    obtain ⟨column, rest⟩ := found
    obtain ⟨-, -, -, rfl⟩ := takeWord?_eq_some_iff.1 htaken
    have hnone : (afterBlanks? rest).bind (dropStart? likeWord) = none := by
      rw [Option.bind_eq_none_iff]
      intro t ht
      obtain ⟨w, -, rfl, -⟩ := afterBlanks?_eq_some_iff.1 ht
      apply dropStart?_eq_none
      intro hlike
      rw [← List.append_assoc] at h
      exact h (hlike.isInfix.trans (List.suffix_append (column ++ w) t).isInfix)
    simp only [hnone, Option.bind_none]

/-- A condition without an equals sign and without the keyword `like` is not interpreted. -/
theorem filterOf_eq_uninterpreted {clause : List Char} (hsign : '=' ∉ clause)
    (hlike : ¬ likeWord <:+: clause) : filterOf clause = .uninterpreted (String.ofList clause) := by
  have hnone : likeTest clause = none := findFirst_eq_none_iff.2 fun y hy =>
    likeHere_eq_none fun h => hlike (h.trans hy.isInfix)
  rw [filterOf, cutAt?_eq_none hsign]
  simp only [hnone]

structure IsLimited (k : Nat) (q q' : Query) : Prop where
  projection : q'.projection = q.projection
  filter : q'.filter = q.filter ∨
    (q.filter = none ∧ ∃ clause, q'.filter = some (.uninterpreted clause))
  sort : q'.sort = q.sort
  unlimited : q.limit = none
  limit : q'.limit = some k

namespace IsLimited

variable {k : Nat} {q q' : Query}

theorem resolveFilter (h : IsLimited k q q') (headers : List String) :
    resolveFilter headers q'.filter = Query.resolveFilter headers q.filter := by
  rcases h.filter with heq | ⟨hnone, clause, hclause⟩
  · rw [heq]
  · rw [hnone, hclause]
    rfl

theorem filterRows (h : IsLimited k q q') (column : Option Resolution) (rows : List (List Cell)) :
    filterRows q'.filter column rows = Query.filterRows q.filter column rows := by
  rcases h.filter with heq | ⟨hnone, clause, hclause⟩
  · rw [heq]
  · rw [hnone, hclause]
    rfl

theorem plan (h : IsLimited k q q') (strict : Bool) (headers : List String) :
    plan strict headers q' = Query.plan strict headers q := by
  rw [Query.plan, Query.plan, unknownNames, unknownNames, h.projection, h.resolveFilter, h.sort]

theorem answer (h : IsLimited k q q') (strict : Bool) (t : Table) :
    answer strict t q' =
      (Query.answer strict t q).map fun a => { a with rows := a.rows.take k } := by
  cases hplan : Query.plan strict t.headers q with
  | error f =>
    rw [answer_of_plan_error hplan, answer_of_plan_error ((h.plan strict t.headers).trans hplan)]
    rfl
  | ok p =>
    rw [answer_of_orderRows hplan, answer_of_orderRows ((h.plan strict t.headers).trans hplan),
      h.filterRows, h.sort, h.unlimited, h.limit]
    cases orderRows q.sort p.sort (Query.filterRows q.filter p.filter t.rows) with
    | error f => rfl
    | ok rows => exact congrArg (fun rows => Except.ok (Answer.mk p.columns rows)) List.map_take

end IsLimited

theorem parseNormal_append {n : Decimal} {r cs : List Char} (hr : IsAddition n r) (hcs : Ended cs)
    (hlimit : ¬ Occurs IsLimit cs) (horder : ¬ ∃ p, IsOrderBy p ∧ p <:+ cs) :
    ∃ q q', parseNormal cs = .ok q ∧ parseNormal (cs ++ r) = .ok q' ∧
      IsLimited (Nat.ofDigitChars 10 n.digits 0) q q' := by
  have hnone := limitDigits_eq_none_iff.2 hlimit
  have hadded : (limitDigits (cs ++ r)).mapM limitOf =
      .ok (some (Nat.ofDigitChars 10 n.digits 0)) := by
    rw [hr.limitDigits hcs.flush hlimit, Option.mapM_some, limitOf_digits]
    rfl
  refine ⟨_, _, by rw [parseNormal, hnone]; rfl, by rw [parseNormal, hadded]; rfl,
    ?_, ?_, ?_, rfl, rfl⟩
  · rw [hr.selected hcs.flush]
  · rcases hr.condition hcs.flush with hsame | ⟨hno, clause, hclause, hfound⟩
    · exact Or.inl (congrArg (Option.map filterOf) hsame)
    · have hsign : '=' ∉ clause := fun hmem =>
        hr.notMem (by decide) (by decide) (by decide) (hclause.subset hmem)
      have hlike : ¬ likeWord <:+: clause := fun h =>
        hr.notMem (c := 'k') (by decide) (by decide) (by decide)
          (hclause.subset (h.subset (by decide)))
      refine Or.inr ⟨by rw [hno]; rfl, String.ofList clause, ?_⟩
      rw [hfound, Option.map_some, filterOf_eq_uninterpreted hsign hlike]
  · rw [hr.ordering hcs.flush horder]

theorem parse_of_parseNormal {text : String} {q : Query} (hselect : selectWord <:+: normalize text)
    (hq : parseNormal (normalize text) = .ok q) : parse text = .ok (some q) := by
  have hquery : isQuery text = true := occurs_eq_true_iff.2 hselect
  rw [parse, if_pos hquery, hq]
  rfl

def decimalOf (k : Nat) (h : (Nat.repr k).length ≤ digitLimit) : Decimal where
  digits := (Nat.repr k).toList
  ne_nil := by
    rw [Nat.toList_repr]
    exact Nat.toDigits_ne_nil
  isDigit := List.all_eq_true.2 fun c hc =>
    Nat.isDigit_of_mem_toDigits (by decide) (by decide) (Nat.toList_repr ▸ hc)
  length_le := by rwa [String.length_toList]

theorem ofDigitChars_decimalOf {k : Nat} (h : (Nat.repr k).length ≤ digitLimit) :
    Nat.ofDigitChars 10 (decimalOf k h).digits 0 = k := by
  have hdigits : (decimalOf k h).digits = Nat.toDigits 10 k := Nat.toList_repr
  rw [hdigits]
  exact Nat.ofDigitChars_toDigits (by decide) (by decide)

/-- A limit added behind a query cuts the answer to its first rows and changes nothing else, also
where the query ends in the middle of a clause. -/
theorem evaluate_append_limit {strict : Bool} {t : Table} {text : String} {k : Nat}
    (hselect : selectWord <:+: normalize text) (hlimit : ¬ Occurs IsLimit (normalize text))
    (horder : ¬ ∃ p, IsOrderBy p ∧ p <:+ normalize text)
    (hdigits : (Nat.repr k).length ≤ digitLimit) :
    evaluate strict t (text ++ " LIMIT " ++ Nat.repr k) =
      (evaluate strict t text).map fun a => { a with rows := a.rows.take k } := by
  have hne : normalize text ≠ [] := by
    intro hnil
    rw [hnil] at hselect
    exact absurd (List.infix_nil.1 hselect) (by decide)
  obtain ⟨r, hr, hnormal⟩ := normalize_append (n := decimalOf k hdigits) rfl hne
  obtain ⟨q, q', hq, hq', hlimited⟩ := parseNormal_append hr (ended_normalize hne) hlimit horder
  have hselect' : selectWord <:+: normalize (text ++ " LIMIT " ++ Nat.repr k) :=
    hnormal ▸ hselect.trans (List.prefix_append (normalize text) r).isInfix
  rw [ofDigitChars_decimalOf] at hlimited
  rw [evaluate_of_parse_some (parse_of_parseNormal hselect hq),
    evaluate_of_parse_some (parse_of_parseNormal hselect' (hnormal ▸ hq')), hlimited.answer]

/-- A text that breaks off inside a cast and again after `where`. -/
def unfinishedText : String :=
  "SELECT Item FROM ledger ORDER BY CAST(price AS int WHERE"

theorem evaluate_append_limit_unfinished :
    evaluate false ⟨["Item", "Price"], [[some "ink", some "3"], [some "pen", some "2"]]⟩
      (unfinishedText ++ " LIMIT " ++ Nat.repr 1) = .ok ⟨["Item"], [["ink"]]⟩ := by
  have hselect : selectWord <:+: normalize unfinishedText := by decide +kernel
  have hlimit : ¬ Occurs IsLimit (normalize unfinishedText) :=
    limitDigits_eq_none_iff.1 (by decide +kernel)
  have horder : ¬ ∃ p, IsOrderBy p ∧ p <:+ normalize unfinishedText := by
    rintro ⟨_, ⟨w, _, rfl⟩, hsuffix⟩
    have hby : byWord <:+ normalize unfinishedText :=
      ((List.suffix_append w byWord).trans (List.suffix_append orderWord _)).trans hsuffix
    exact absurd hby (by decide +kernel)
  exact (evaluate_append_limit hselect hlimit horder (by decide)).trans (by decide +kernel)

end TableTalk.Query

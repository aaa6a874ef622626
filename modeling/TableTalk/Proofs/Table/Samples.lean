import Mathlib.Data.List.Basic
import TableTalk.Proofs.Csv.Scan
import TableTalk.Proofs.Failure
import TableTalk.Table.Schema

/-!
# Sample values

The values that a description shows for a column are the first of its distinct nonempty values, in
the order in which they appear. As many are shown as are asked for, or all of them if there are
fewer. Their number is looked at only after a value has been added, so one value is shown, if there
is any, even where none is asked for.
-/

namespace TableTalk.Table

open Text

variable {t : Table} {position : Nat}

def filledTexts (cells : List Cell) : List String :=
  (cells.filterMap id).filter (· ≠ "")

def distinct (t : Table) (position : Nat) : List String :=
  (filledTexts (t.rows.map fun row => row[position]?.join)).eraseDups

def sampleLine (header : String) (position : Nat) (values : List String) : String :=
  "- " ++ header ++ ": Column " ++ toString (position + 1) ++
    if values = [] then "" else " (e.g., " ++ join ", " (values.map quoted) ++ ")"

def description (t : Table) (name : String) (values : Nat → List String) : String :=
  join "\n" (
    ["CSV Data Schema:",
      "The table should be treated as \"" ++ name ++ "\" with the following columns:"]
    ++ t.headers.zipIdx.map (fun (header, position) => sampleLine header position (values position))
    ++ ["", "Available columns: " ++ join ", " t.headers, "", "Examples:",
      "- \"Show all data\" -> SELECT * FROM " ++ name ++ " LIMIT 10"]
    ++ t.headers.head?.toList.map fun first =>
      "- \"Find a value\" -> SELECT * FROM " ++ name ++ " WHERE " ++ first ++ " LIKE '%value%'")

/-- What is collected behind the values that were seen so far. -/
theorem collectSamples_eq (limit : Int) (seen : List String) (cells : List Cell) :
    collectSamples limit seen cells = seen ++ ((filledTexts cells).filter
      (· ∉ seen)).eraseDups.take (max 1 (limit.toNat - seen.length)) := by
  induction cells generalizing seen with
  | nil => simp [collectSamples, filledTexts]
  | cons cell cells ih =>
    cases cell with
    | none => exact ih seen
    | some value =>
      unfold collectSamples
      by_cases hskip : value = "" ∨ value ∈ seen
      · rw [if_pos hskip, ih]
        rcases hskip with rfl | hseen <;> simp [filledTexts, *]
      · rw [if_neg hskip]
        rw [not_or] at hskip
        have hfirst : (filledTexts (some value :: cells)).filter (· ∉ seen) =
            value :: (filledTexts cells).filter (· ∉ seen) := by
          simp [filledTexts, hskip]
        rw [hfirst, List.eraseDups_cons]
        dsimp only
        by_cases hfull : limit ≤ (seen ++ [value]).length
        · have hone : max 1 (limit.toNat - seen.length) = 1 := by
            rw [List.length_append, List.length_singleton] at hfull
            omega
          rw [if_pos hfull, hone]
          rfl
        · have hmore : max 1 (limit.toNat - seen.length) =
              max 1 (limit.toNat - (seen ++ [value]).length) + 1 := by
            rw [List.length_append, List.length_singleton] at hfull ⊢
            omega
          have hrest : (filledTexts cells).filter (· ∉ seen ++ [value]) =
              ((filledTexts cells).filter (· ∉ seen)).filter fun other => !other == value := by
            rw [List.filter_filter]
            refine List.filter_congr fun other _ => ?_
            by_cases hother : other = value <;> simp [hother]
          rw [if_neg hfull, ih, hrest, hmore, List.take_succ_cons, List.append_assoc]
          rfl

theorem column_eq {rows : List (List Cell)} (h : ∀ row ∈ rows, position < row.length) :
    column position rows = (rows.map fun row => row[position]?.join, true) := by
  induction rows with
  | nil => rfl
  | cons row rows ih =>
    obtain ⟨hrow, hrows⟩ := List.forall_mem_cons.1 h
    rw [column, List.getElem?_eq_getElem hrow, ih hrows]
    simp [List.getElem?_eq_getElem hrow]

theorem samples_eq (h : ∀ row ∈ t.rows, position < row.length) (limit : Int) :
    t.samples position limit = .ok ((t.distinct position).take (max 1 limit.toNat)) := by
  rw [samples, column_eq h]
  dsimp only
  rw [Bool.true_or, if_pos rfl, collectSamples_eq, List.filter_eq_self.2 (by simp)]
  rfl

theorem columnLine_eq (h : ∀ row ∈ t.rows, position < row.length) (limit : Int) (header : String) :
    t.columnLine limit position header =
      .ok (sampleLine header position ((t.distinct position).take (max 1 limit.toNat))) := by
  rw [columnLine, samples_eq h]
  simp only [sampleLine, ← List.isEmpty_iff]
  rfl

theorem describe_eq (h : Csv.IsRectangular t) (name : String) (limit : Int) :
    t.describe name limit = .ok (description t name fun position =>
      (t.distinct position).take (max 1 limit.toNat)) := by
  have hlines : (t.headers.zipIdx.mapM fun (header, position) =>
      t.columnLine limit position header) = .ok (t.headers.zipIdx.map fun (header, position) =>
        sampleLine header position ((t.distinct position).take (max 1 limit.toNat))) := by
    refine mapM_eq_map fun (header, position) hmem =>
      columnLine_eq (fun row hrow => ?_) limit header
    rw [h.length_eq row hrow]
    exact List.snd_lt_of_mem_zipIdx hmem
  rw [describe, hlines, description]
  cases t.headers <;> rfl

theorem exists_describe (h : Csv.IsRectangular t) (name : String) (limit : Int) :
    ∃ text, t.describe name limit = .ok text :=
  ⟨_, describe_eq h name limit⟩

/-- The values shown for a column are the first of its distinct nonempty values, as many as are
asked for; if none is asked for, the first one is shown nevertheless. -/
theorem describe_firstValues {csv : String} (h : Csv.parse csv = .ok t) (name : String) (k : Nat) :
    ∃ listed : Nat → List String, t.describe name k = .ok (description t name listed) ∧
      ∀ position < t.headers.length, t.samples position k = .ok (listed position) ∧
        (0 < k → listed position = (t.distinct position).take k ∧
          (listed position).length = min k (t.distinct position).length) ∧
        (k = 0 → listed position = (t.distinct position).take 1) := by
  have hrect := Csv.isRectangular_of_parse h
  refine ⟨_, describe_eq hrect name k, fun position hposition => ⟨samples_eq ?_ k, ?_, ?_⟩⟩
  · intro row hrow
    rwa [hrect.length_eq row hrow]
  · intro hk
    rw [Int.toNat_natCast, Nat.max_eq_right hk]
    exact ⟨rfl, List.length_take⟩
  · rintro rfl
    rfl

def towns : Table where
  headers := ["Town"]
  rows := [[some "Oslo"], [some ""], [some "Rome"], [some "Oslo"], [some "Bern"]]

theorem describe_firstValues_towns :
    Csv.parse "Town\nOslo\n\"\"\nRome\nOslo\nBern\n" = .ok towns ∧
      towns.samples 0 2 = .ok ["Oslo", "Rome"] ∧
      towns.samples 0 9 = .ok ["Oslo", "Rome", "Bern"] := by
  have hparse : Csv.parse "Town\nOslo\n\"\"\nRome\nOslo\nBern\n" = .ok towns := by
    decide +kernel
  have hdistinct : towns.distinct 0 = ["Oslo", "Rome", "Bern"] := by decide +kernel
  obtain ⟨two, -, htwo⟩ := describe_firstValues hparse "t" 2
  obtain ⟨nine, -, hnine⟩ := describe_firstValues hparse "t" 9
  refine ⟨hparse, ?_, ?_⟩
  · obtain ⟨hsamples, hlisted, -⟩ := htwo 0 (by decide)
    rw [(hlisted (by decide)).1, hdistinct] at hsamples
    exact hsamples
  · obtain ⟨hsamples, hlisted, -⟩ := hnine 0 (by decide)
    rw [(hlisted (by decide)).1, hdistinct] at hsamples
    exact hsamples

/-- One value is shown where none is asked for. -/
theorem not_firstValues_zero :
    Csv.parse "c\nx\n" = .ok ⟨["c"], [[some "x"]]⟩ ∧
      samples ⟨["c"], [[some "x"]]⟩ 0 0 = .ok ["x"] ∧
      samples ⟨["c"], [[some "x"]]⟩ 0 0 ≠ .ok ((distinct ⟨["c"], [[some "x"]]⟩ 0).take 0) := by
  have hsamples : samples ⟨["c"], [[some "x"]]⟩ 0 0 = .ok ["x"] := by decide +kernel
  refine ⟨by decide +kernel, hsamples, ?_⟩
  rw [hsamples]
  decide

end TableTalk.Table

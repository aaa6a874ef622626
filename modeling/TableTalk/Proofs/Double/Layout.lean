import TableTalk.Proofs.Double.Shortest

/-!
# The layout of a decimal

However a decimal is laid out, its text is a numeral with a fraction or an exponent, and the value
of that numeral is the decimal.
-/

namespace TableTalk.Double

open Text

def fractionChars (fraction : List Char) : List Char :=
  if fraction = [] then [] else '.' :: fraction

def exponentChars : Option (Bool × List Char) → List Char
  | none => []
  | some (negative, ds) => 'e' :: (if negative then '-' else '+') :: ds

def Numeral.chars (n : Numeral) : List Char :=
  n.whole ++ (fractionChars n.fraction ++ exponentChars n.exponent)

structure IsWhole (cs : List Char) : Prop where
  isDigit : ∀ c ∈ cs, c.isDigit = true
  ne_nil : cs ≠ []
  lead : cs.head? = some '0' → cs = ['0']

structure Numeral.IsFloat (n : Numeral) : Prop where
  whole : IsWhole n.whole
  fraction : ∀ c ∈ n.fraction, c.isDigit = true
  exponent : ∀ e ∈ n.exponent, e.2 ≠ [] ∧ ∀ c ∈ e.2, c.isDigit = true
  float : n.fraction ≠ [] ∨ n.exponent ≠ none

theorem isDigit_of_mem_replicate_zero {n : Nat} :
    ∀ c ∈ List.replicate n '0', c.isDigit = true := by
  intro c hc
  rw [List.eq_of_mem_replicate hc]
  rfl

theorem isWhole_zero : IsWhole ['0'] where
  isDigit := isDigit_of_mem_replicate_zero (n := 1)
  ne_nil := List.cons_ne_nil _ _
  lead := fun _ => rfl

theorem isWhole_repr (n : Nat) : IsWhole (Nat.repr n).toList where
  isDigit := fun _ => isDigit_of_mem_repr
  ne_nil := repr_ne_nil n
  lead := by
    intro hlead
    by_cases hn : n = 0
    · rw [hn]
      rfl
    · exact absurd hlead (head?_repr_ne hn)

structure IsMantissa (ds : List Char) : Prop where
  isDigit : ∀ c ∈ ds, c.isDigit = true
  ne_nil : ds ≠ []
  lead : ds.head? ≠ some '0'

theorem IsMantissa.isWhole_append {ds : List Char} (h : IsMantissa ds) {more : List Char}
    (hmore : ∀ c ∈ more, c.isDigit = true) : IsWhole (ds ++ more) where
  isDigit := by
    intro c hc
    exact (List.mem_append.1 hc).elim (h.isDigit c) (hmore c)
  ne_nil := fun hnil => h.ne_nil (List.append_eq_nil_iff.1 hnil).1
  lead := by
    intro hlead
    rw [List.head?_append_of_ne_nil _ h.ne_nil] at hlead
    exact absurd hlead h.lead

theorem IsMantissa.isWhole_take {ds : List Char} (h : IsMantissa ds) {n : Nat} (hn : n ≠ 0) :
    IsWhole (ds.take n) where
  isDigit := fun c hc => h.isDigit c (List.mem_of_mem_take hc)
  ne_nil := fun hnil => (List.take_eq_nil_iff.1 hnil).elim hn h.ne_nil
  lead := by
    intro hlead
    rw [List.head?_take, if_neg hn] at hlead
    exact absurd hlead h.lead

theorem numeral_zero_append (ds : List Char) (n : Nat) :
    numeral (List.replicate n '0' ++ ds) = numeral ds := by
  rw [numeral_append, numeral_replicate_zero, Nat.zero_mul, Nat.zero_add]

theorem toList_padZeros (width n : Nat) : ∃ k, (padZeros width (toString n)).toList =
    List.replicate k '0' ++ (Nat.repr n).toList := by
  refine ⟨width - (toString n).length, ?_⟩
  rw [padZeros, String.toList_append, String.toList_ofList]
  rfl

theorem value_unscaled (whole fraction : List Char) (negative : Bool) :
    (⟨whole, fraction, none⟩ : Numeral).value negative =
      ofDecimal negative (numeral (whole ++ fraction)) (-(fraction.length : Int)) := by
  rw [Numeral.value]
  exact congrArg _ (Int.zero_sub _)

theorem value_scaled (whole fraction : List Char) {digits : List Char} {e : Int}
    (h : numeral digits = e.natAbs) (negative : Bool) :
    (⟨whole, fraction, some (decide (e < 0), digits)⟩ : Numeral).value negative =
      ofDecimal negative (numeral (whole ++ fraction)) (e - fraction.length) := by
  by_cases hneg : e < 0
  · have hscale : -(e.natAbs : Int) = e := by omega
    rw [decide_eq_true hneg, Numeral.value]
    dsimp only
    rw [h, hscale]
  · have hscale : (e.natAbs : Int) = e := by omega
    rw [decide_eq_false hneg, Numeral.value]
    dsimp only
    rw [h, hscale]

/-- A text is that of a numeral whose value is a decimal. -/
def Shows (text : String) (mantissa : Nat) (exponent : Int) : Prop :=
  ∃ n : Numeral, n.IsFloat ∧ text.toList = n.chars ∧
    ∀ negative, n.value negative = ofDecimal negative mantissa exponent

variable {ds : List Char}

theorem shows_below (h : IsMantissa ds) (zeros : Nat) :
    Shows ("0." ++ String.ofList (List.replicate zeros '0') ++ String.ofList ds) (numeral ds)
      (-(zeros : Int) - ds.length) := by
  have hfraction : List.replicate zeros '0' ++ ds ≠ [] := fun hnil =>
    h.ne_nil (List.append_eq_nil_iff.1 hnil).2
  refine ⟨⟨['0'], List.replicate zeros '0' ++ ds, none⟩, ?_, ?_, fun negative => ?_⟩
  · refine ⟨isWhole_zero, fun c hc => ?_, (fun _ he => nomatch he), Or.inl hfraction⟩
    exact (List.mem_append.1 hc).elim (isDigit_of_mem_replicate_zero c) (h.isDigit c)
  · simp [Numeral.chars, fractionChars, exponentChars, h.ne_nil]
  · have hmantissa : numeral (['0'] ++ (List.replicate zeros '0' ++ ds)) = numeral ds := by
      rw [← numeral_zero_append ds (zeros + 1)]
      rfl
    have hplace : -((List.replicate zeros '0' ++ ds).length : Int) =
        -(zeros : Int) - ds.length := by
      rw [List.length_append, List.length_replicate]
      omega
    rw [value_unscaled, hmantissa, hplace]

theorem shows_whole (h : IsMantissa ds) (zeros : Nat) :
    Shows (String.ofList ds ++ String.ofList (List.replicate zeros '0') ++ ".0") (numeral ds)
      zeros := by
  refine ⟨⟨ds ++ List.replicate zeros '0', ['0'], none⟩, ?_, ?_, fun negative => ?_⟩
  · exact ⟨h.isWhole_append isDigit_of_mem_replicate_zero, isWhole_zero.isDigit,
      (fun _ he => nomatch he), Or.inl isWhole_zero.ne_nil⟩
  · simp [Numeral.chars, fractionChars, exponentChars]
  · have hmantissa : numeral (ds ++ List.replicate zeros '0' ++ ['0']) =
        numeral ds * 10 ^ (zeros + 1) := by
      rw [List.append_assoc, ← List.replicate_succ', numeral_append, numeral_replicate_zero,
        List.length_replicate, Nat.add_zero]
    have hplace : -(['0'].length : Int) = (zeros : Int) - (zeros + 1 : Nat) := by
      rw [List.length_singleton]
      omega
    rw [value_unscaled, hmantissa, hplace, ofDecimal_shift]

theorem shows_between (h : IsMantissa ds) {p : Nat} (hp : p ≠ 0) (hlt : p < ds.length) :
    Shows (String.ofList (ds.take p) ++ "." ++ String.ofList (ds.drop p)) (numeral ds)
      (p - ds.length) := by
  have hfraction : ds.drop p ≠ [] := by
    intro hnil
    exact absurd (List.drop_eq_nil_iff.1 hnil) (by omega)
  refine ⟨⟨ds.take p, ds.drop p, none⟩, ?_, ?_, fun negative => ?_⟩
  · exact ⟨h.isWhole_take hp, fun c hc => h.isDigit c (List.mem_of_mem_drop hc),
      (fun _ he => nomatch he), Or.inl hfraction⟩
  · rw [Numeral.chars, fractionChars, if_neg hfraction, exponentChars]
    simp
  · have hplace : -((ds.drop p).length : Int) = (p : Int) - ds.length := by
      rw [List.length_drop]
      omega
    rw [value_unscaled, List.take_append_drop, hplace]

theorem shows_scaled (h : IsMantissa ds) (e : Int) :
    Shows (String.ofList (ds.take 1) ++ (if ds.length ≤ 1 then "" else "." ++
      String.ofList (ds.drop 1)) ++ "e" ++ (if e < 0 then "-" else "+") ++
        padZeros 2 (toString e.natAbs)) (numeral ds) (e + 1 - ds.length) := by
  obtain ⟨k, hk⟩ := toList_padZeros 2 e.natAbs
  have hpos : 0 < ds.length := List.length_pos_of_ne_nil h.ne_nil
  have hexponent : numeral (List.replicate k '0' ++ (Nat.repr e.natAbs).toList) = e.natAbs := by
    rw [numeral_zero_append, numeral_repr]
  refine ⟨⟨ds.take 1, ds.drop 1,
    some (decide (e < 0), List.replicate k '0' ++ (Nat.repr e.natAbs).toList)⟩, ?_, ?_,
    fun negative => ?_⟩
  · refine ⟨h.isWhole_take (by decide), fun c hc => h.isDigit c (List.mem_of_mem_drop hc), ?_,
      Or.inr (Option.some_ne_none _)⟩
    rintro _ ⟨⟩
    refine ⟨fun hnil => repr_ne_nil _ (List.append_eq_nil_iff.1 hnil).2, fun c hc => ?_⟩
    exact (List.mem_append.1 hc).elim (isDigit_of_mem_replicate_zero c) isDigit_of_mem_repr
  · have hfraction : (if ds.length ≤ 1 then "" else "." ++ String.ofList (ds.drop 1)).toList =
        fractionChars (ds.drop 1) := by
      by_cases hlength : ds.length ≤ 1
      · rw [if_pos hlength, fractionChars, if_pos (List.drop_eq_nil_iff.2 hlength)]
        rfl
      · rw [if_neg hlength, fractionChars, if_neg (mt List.drop_eq_nil_iff.1 hlength),
          String.toList_append, String.toList_ofList, String.toList_ofList]
        rfl
    have hsign : (if e < 0 then "-" else "+").toList =
        [if decide (e < 0) = true then '-' else '+'] := by
      by_cases hneg : e < 0 <;> simp [hneg]
    simp only [Numeral.chars, exponentChars, String.toList_append, String.toList_ofList, hfraction,
      hsign, hk, List.append_assoc]
    rfl
  · have hplace : e - (ds.drop 1).length = e + 1 - ds.length := by
      rw [List.length_drop]
      omega
    rw [value_scaled _ _ hexponent, List.take_append_drop, hplace]

theorem layout_shows (h : IsMantissa ds) (point : Int) :
    Shows (layout ds point) (numeral ds) (point - ds.length) := by
  unfold layout
  by_cases hrange : -4 < point ∧ point ≤ 16
  · rw [if_pos hrange]
    cases point with
    | ofNat p =>
      dsimp only
      by_cases hp : p = 0
      · rw [if_pos hp, hp]
        exact shows_below h 0
      · rw [if_neg hp]
        by_cases hlength : ds.length ≤ p
        · rw [if_pos hlength]
          have hplace : (Int.ofNat p) - ds.length = ((p - ds.length : Nat) : Int) := by
            rw [Int.ofNat_eq_natCast]
            omega
          rw [hplace]
          exact shows_whole h (p - ds.length)
        · rw [if_neg hlength]
          exact shows_between h hp (Nat.lt_of_not_le hlength)
    | negSucc p =>
      exact shows_below h (p + 1)
  · rw [if_neg hrange]
    have hscaled := shows_scaled h (point - 1)
    rw [Int.sub_add_cancel] at hscaled
    exact hscaled

theorem isMantissa_repr {n : Nat} (hn : n ≠ 0) : IsMantissa (Nat.repr n).toList where
  isDigit := fun _ => isDigit_of_mem_repr
  ne_nil := repr_ne_nil n
  lead := head?_repr_ne hn

/-- The text of a magnitude is a numeral whose value is that magnitude. -/
theorem magnitudeText_spells {units : Nat} (h : IsMagnitude units) : ∃ n : Numeral, n.IsFloat ∧
    (magnitudeText units).toList = n.chars ∧
      ∀ negative, n.value negative = finite negative units := by
  by_cases hne : units = 0
  · rw [hne]
    refine ⟨⟨['0'], ['0'], none⟩, ?_, rfl, fun negative => ?_⟩
    · exact ⟨isWhole_zero, isWhole_zero.isDigit, (fun _ he => nomatch he),
        Or.inl isWhole_zero.ne_nil⟩
    · rw [value_unscaled]
      exact ofDecimal_zero negative _
  · have hmantissa := reduce_ne_zero (shortest_ne_zero h hne) 1100
    obtain ⟨n, hfloat, htext, hvalue⟩ := layout_shows (isMantissa_repr hmantissa)
      ((Nat.repr ((shortest units).reduce 1100).mantissa).toList.length +
        ((shortest units).reduce 1100).exponent)
    refine ⟨n, hfloat, ?_, fun negative => ?_⟩
    · rw [magnitudeText, if_neg hne]
      exact htext
    · rw [hvalue, numeral_repr, add_sub_cancel_left, ofDecimal_reduce,
        shortest_reads_back h hne]

end TableTalk.Double

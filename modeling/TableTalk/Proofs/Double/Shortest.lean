import TableTalk.Double.Shortest
import TableTalk.Proofs.Double.Rounding
import TableTalk.Proofs.Text.Numeral

/-!
# The shortest decimal read back

Zeros at the end of the mantissa of a decimal may be dropped, and the decimal that is written for a
double reads back as that double.
-/

namespace TableTalk.Double

open Text

-- Unfolding would make numerals of hundreds of digits.
attribute [local irreducible] unitsPerOne overflowUnits

def ofScaled (negative : Bool) (mantissa : Nat) (exponent : Int) : Double :=
  ofUnits negative (mantissa * 10 ^ exponent.toNat * unitsPerOne) (10 ^ (-exponent).toNat)

theorem ofScaled_ofNat (negative : Bool) (mantissa e : Nat) :
    ofScaled negative mantissa (.ofNat e) =
      ofUnits negative (mantissa * Nat.pow 10 e * unitsPerOne) 1 := by
  have hden : (-Int.ofNat e).toNat = 0 := by
    rw [Int.ofNat_eq_natCast]
    omega
  rw [ofScaled, hden]
  rfl

theorem ofScaled_negSucc (negative : Bool) (mantissa e : Nat) :
    ofScaled negative mantissa (.negSucc e) =
      ofUnits negative (mantissa * unitsPerOne) (Nat.pow 10 (e + 1)) := by
  rw [ofScaled, Int.toNat_negSucc, pow_zero, Nat.mul_one]
  rfl

theorem ofDecimal_zero (negative : Bool) (exponent : Int) :
    ofDecimal negative 0 exponent = finite negative 0 :=
  rfl

theorem ofDecimal_eq {mantissa : Nat} (h : mantissa ≠ 0) (negative : Bool) (exponent : Int) :
    ofDecimal negative mantissa exponent =
      if (decimalBound : Int) < exponent + (Nat.repr mantissa).length then infinite negative
      else if exponent + (Nat.repr mantissa).length < -(decimalBound : Int) then finite negative 0
      else ofScaled negative mantissa exponent := by
  cases exponent with
  | ofNat e =>
    rw [ofScaled_ofNat]
    exact if_neg h
  | negSucc e =>
    rw [ofScaled_negSucc]
    exact if_neg h

theorem ofScaled_shift (negative : Bool) (mantissa k : Nat) (exponent : Int) :
    ofScaled negative (mantissa * 10 ^ k) (exponent - k) = ofScaled negative mantissa exponent := by
  have hpowers : k + (exponent - k).toNat + (-exponent).toNat =
      exponent.toNat + (-(exponent - k)).toNat := by
    omega
  refine ofUnits_congr (Nat.pow_pos (by decide)) (Nat.pow_pos (by decide)) ?_ negative
  calc mantissa * 10 ^ k * 10 ^ (exponent - k).toNat * unitsPerOne * 10 ^ (-exponent).toNat
      = mantissa * 10 ^ (k + (exponent - k).toNat + (-exponent).toNat) * unitsPerOne := by
        rw [pow_add, pow_add]
        ring
    _ = mantissa * 10 ^ exponent.toNat * unitsPerOne * 10 ^ (-(exponent - k)).toNat := by
        rw [hpowers, pow_add]
        ring

theorem ofDecimal_shift (negative : Bool) (mantissa k : Nat) (exponent : Int) :
    ofDecimal negative (mantissa * 10 ^ k) (exponent - k) =
      ofDecimal negative mantissa exponent := by
  by_cases h : mantissa = 0
  · rw [h, Nat.zero_mul, ofDecimal_zero, ofDecimal_zero]
  · have hne : mantissa * 10 ^ k ≠ 0 := Nat.mul_ne_zero h (pow_ne_zero k (by decide))
    have hplace : exponent - k + ((Nat.repr mantissa).length + k : Nat) =
        exponent + (Nat.repr mantissa).length := by
      omega
    rw [ofDecimal_eq hne, ofDecimal_eq h, length_repr_mul_pow h, hplace, ofScaled_shift]

theorem ofUnits_eq_finite {num den units : Nat} (h : ofUnits false num den = finite false units)
    (negative : Bool) : ofUnits negative num den = finite negative units := by
  by_cases hlt : roundUnits num den < overflowUnits
  · rw [ofUnits_of_lt hlt] at h ⊢
    cases h
    rfl
  · rw [show ofUnits false num den = infinite false from if_neg hlt] at h
    cases h

/-- The sign has no part in what is read. -/
theorem ofDecimal_eq_finite {mantissa units : Nat} {exponent : Int}
    (h : ofDecimal false mantissa exponent = finite false units) (negative : Bool) :
    ofDecimal negative mantissa exponent = finite negative units := by
  by_cases hzero : mantissa = 0
  · rw [hzero, ofDecimal_zero] at h ⊢
    cases h
    rfl
  · rw [ofDecimal_eq hzero] at h ⊢
    by_cases hlarge : (decimalBound : Int) < exponent + (Nat.repr mantissa).length
    · rw [if_pos hlarge] at h
      cases h
    rw [if_neg hlarge] at h ⊢
    by_cases hsmall : exponent + (Nat.repr mantissa).length < -(decimalBound : Int)
    · rw [if_pos hsmall] at h ⊢
      cases h
      rfl
    · rw [if_neg hsmall] at h ⊢
      exact ofUnits_eq_finite h negative

theorem ofDecimal_reduce (negative : Bool) (fuel : Nat) (d : Decimal) :
    ofDecimal negative (d.reduce fuel).mantissa (d.reduce fuel).exponent =
      ofDecimal negative d.mantissa d.exponent := by
  induction fuel generalizing d with
  | zero => rfl
  | succ fuel ih =>
    rw [Decimal.reduce]
    split
    · next hzero =>
      have hmantissa : d.mantissa / 10 * 10 ^ 1 = d.mantissa := by omega
      have hshift := ofDecimal_shift negative (d.mantissa / 10) 1 (d.exponent + 1)
      rw [hmantissa, Nat.cast_one, Int.add_sub_cancel] at hshift
      rw [ih, hshift]
    · rfl

theorem reduce_ne_zero {d : Decimal} (h : d.mantissa ≠ 0) (fuel : Nat) :
    (d.reduce fuel).mantissa ≠ 0 := by
  induction fuel generalizing d with
  | zero => exact h
  | succ fuel ih =>
    rw [Decimal.reduce]
    split
    · apply ih
      dsimp only
      omega
    · exact h

theorem searchGrids_succ (units grids count : Nat) :
    searchGrids units (grids + 1) count =
      match (neighbours units count).find? fun d => d.readsAs units with
      | some d => some d
      | none => searchGrids units grids (count + 1) :=
  rfl

theorem readsAs_of_searchGrids {units grids count : Nat} {d : Decimal}
    (h : searchGrids units grids count = some d) : d.readsAs units = true := by
  induction grids generalizing count with
  | zero => cases h
  | succ grids ih =>
    rw [searchGrids_succ] at h
    cases hfind : (neighbours units count).find? fun d => d.readsAs units with
    | none =>
      rw [hfind] at h
      exact ih h
    | some d' =>
      rw [hfind] at h
      cases h
      exact List.find?_some (p := fun d : Decimal => d.readsAs units) hfind

theorem ten_pow_le : 10 ^ 750 ≤ Nat.pow 5 1074 := by
  decide +kernel

theorem mul_overflowUnits_le : overflowUnits * Nat.pow 5 1074 ≤ 10 ^ 1474 := by
  decide +kernel

theorem mul_unitsPerOne : Nat.pow 5 1074 * unitsPerOne = Nat.pow 10 (1073 + 1) := by
  decide +kernel

/-- Written out in full, a magnitude is in the range of the decimals that are looked at. -/
theorem length_exactDecimal {units : Nat} (h : units < overflowUnits) (hne : units ≠ 0) :
    750 < (Nat.repr (units * Nat.pow 5 1074)).length ∧
      (Nat.repr (units * Nat.pow 5 1074)).length ≤ 1474 := by
  have hlow : 10 ^ 750 ≤ units * Nat.pow 5 1074 :=
    Nat.le_trans ten_pow_le (Nat.le_mul_of_pos_left _ (Nat.pos_of_ne_zero hne))
  have hfive : 0 < Nat.pow 5 1074 := by decide +kernel
  have hhigh : units * Nat.pow 5 1074 < 10 ^ 1474 :=
    Nat.lt_of_lt_of_le (Nat.mul_lt_mul_of_pos_right h hfive) mul_overflowUnits_le
  exact ⟨not_le.1 fun hle => absurd hlow (not_le.2 ((length_repr_le_iff (by decide)).1 hle)),
    (length_repr_le_iff (by decide)).2 hhigh⟩

theorem exactDecimal_reads_back {units : Nat} (h : IsMagnitude units) (hne : units ≠ 0) :
    ofDecimal false (exactDecimal units).mantissa (exactDecimal units).exponent =
      finite false units := by
  obtain ⟨hlow, hhigh⟩ := length_exactDecimal h.lt_overflow hne
  have hfive : 0 < Nat.pow 5 1074 := by decide +kernel
  have hmantissa : units * Nat.pow 5 1074 ≠ 0 := Nat.mul_ne_zero hne hfive.ne'
  have hvalue : ofScaled false (units * Nat.pow 5 1074) (-1074) = ofUnits false units 1 := by
    have hden : 0 < Nat.pow 10 (1073 + 1) := by decide +kernel
    have hratio : units * Nat.pow 5 1074 * unitsPerOne * 1 = units * Nat.pow 10 (1073 + 1) := by
      rw [Nat.mul_one, Nat.mul_assoc, mul_unitsPerOne]
    rw [show (-1074 : Int) = .negSucc 1073 from rfl, ofScaled_negSucc]
    exact ofUnits_congr hden Nat.zero_lt_one hratio false
  rw [exactDecimal]
  rw [ofDecimal_eq hmantissa, if_neg, if_neg, hvalue, ofUnits_of_isMagnitude h]
  · simp only [decimalBound]
    omega
  · simp only [decimalBound]
    omega

/-- The decimal that is written for a magnitude reads back as that magnitude. -/
theorem shortest_reads_back {units : Nat} (h : IsMagnitude units) (hne : units ≠ 0)
    (negative : Bool) :
    ofDecimal negative (shortest units).mantissa (shortest units).exponent =
      finite negative units := by
  refine ofDecimal_eq_finite ?_ negative
  rw [shortest]
  cases hsearch : searchGrids units 17 1 with
  | none => exact exactDecimal_reads_back h hne
  | some d => exact eq_of_beq (readsAs_of_searchGrids hsearch)

theorem shortest_ne_zero {units : Nat} (h : IsMagnitude units) (hne : units ≠ 0) :
    (shortest units).mantissa ≠ 0 := by
  intro hzero
  have hread := shortest_reads_back h hne false
  rw [hzero, ofDecimal_zero] at hread
  cases hread
  exact hne rfl

end TableTalk.Double

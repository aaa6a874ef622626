import Mathlib
import TableTalk.Double.Decimal

/-!
# Rounding to doubles, and their order

The rounding of a quotient depends on the quotient only, not on how it is written, and what was
rounded once is not changed by rounding it again. Doubles other than `nan` compare as the whole
numbers of units that they stand for, with the infinite ones at the two ends. No decimal numeral
denotes `nan`.
-/

namespace TableTalk.Double

theorem roundQuotient_mul_left {k : Nat} (hk : 0 < k) (num den : Nat) :
    roundQuotient (k * num) (k * den) = roundQuotient num den := by
  have hup : k * den < 2 * (k * (num % den)) ↔ den < 2 * (num % den) := by
    rw [Nat.mul_left_comm, Nat.mul_lt_mul_left hk]
  have htie : 2 * (k * (num % den)) = k * den ↔ 2 * (num % den) = den := by
    rw [Nat.mul_left_comm]
    exact Nat.mul_left_cancel_iff hk
  simp only [roundQuotient, Nat.mul_div_mul_left _ _ hk, Nat.mul_mod_mul_left, hup, htie]

theorem roundUnits_mul_left {k : Nat} (hk : 0 < k) (num den : Nat) :
    roundUnits (k * num) (k * den) = roundUnits num den := by
  simp only [roundUnits, Nat.mul_div_mul_left _ _ hk, Nat.mul_assoc, roundQuotient_mul_left hk]

theorem roundUnits_congr {num den num' den' : Nat} (hden : 0 < den) (hden' : 0 < den')
    (h : num * den' = num' * den) : roundUnits num den = roundUnits num' den' := by
  calc roundUnits num den = roundUnits (den' * num) (den' * den) :=
        (roundUnits_mul_left hden' num den).symm
    _ = roundUnits (den * num') (den * den') := by
        rw [Nat.mul_comm den' num, h, Nat.mul_comm num' den, Nat.mul_comm den' den]
    _ = roundUnits num' den' := roundUnits_mul_left hden num' den'

theorem ofUnits_congr {num den num' den' : Nat} (hden : 0 < den) (hden' : 0 < den')
    (h : num * den' = num' * den) (negative : Bool) :
    ofUnits negative num den = ofUnits negative num' den' := by
  rw [ofUnits, ofUnits, roundUnits_congr hden hden' h]

theorem roundQuotient_le (num den : Nat) : roundQuotient num den ≤ num / den + 1 := by
  simp only [roundQuotient]
  split
  · exact Nat.le_refl _
  · exact Nat.le_succ _

theorem roundQuotient_mul_right {den : Nat} (hden : 0 < den) (q : Nat) :
    roundQuotient (q * den) den = q := by
  simp only [roundQuotient, Nat.mul_mod_left, Nat.mul_div_cancel q hden]
  rw [if_neg (by omega)]

/-- A rounded magnitude has at most 53 significant bits. -/
theorem exists_roundUnits (num den : Nat) :
    ∃ q e, q ≤ 2 ^ 53 ∧ roundUnits num den = q * 2 ^ e := by
  refine ⟨_, _, ?_, rfl⟩
  have hlead : num / den < 2 ^ 53 * 2 ^ ((num / den).log2 - 52) := by
    calc num / den < 2 ^ ((num / den).log2 + 1) := Nat.lt_log2_self
      _ ≤ 2 ^ (53 + ((num / den).log2 - 52)) := Nat.pow_le_pow_right (by decide) (by omega)
      _ = _ := pow_add _ _ _
  have hquotient : num / (den * Nat.pow 2 ((num / den).log2 - 52)) < 2 ^ 53 := by
    rw [← Nat.div_div_eq_div_mul]
    exact Nat.div_lt_of_lt_mul (Nat.mul_comm _ _ ▸ hlead)
  exact Nat.le_trans (roundQuotient_le _ _) hquotient

theorem roundUnits_of_lt {q e : Nat} (hq : q < 2 ^ 53) : roundUnits (q * 2 ^ e) 1 = q * 2 ^ e := by
  by_cases hzero : q * 2 ^ e = 0
  · rw [hzero]
    rfl
  · have hexcess : (q * 2 ^ e).log2 - 52 ≤ e := by
      have hlt : q * 2 ^ e < 2 ^ (53 + e) := by
        rw [pow_add]
        exact Nat.mul_lt_mul_of_pos_right hq (Nat.two_pow_pos e)
      have hlog := (Nat.log2_lt hzero).2 hlt
      omega
    obtain ⟨further, hfurther⟩ := Nat.exists_eq_add_of_le' hexcess
    generalize hlog : (q * 2 ^ e).log2 - 52 = excess at *
    simp only [roundUnits, Nat.div_one, Nat.one_mul, hlog]
    rw [hfurther, pow_add, ← Nat.mul_assoc]
    rw [show Nat.pow 2 excess = 2 ^ excess from rfl, roundQuotient_mul_right (Nat.two_pow_pos _)]

theorem roundUnits_eq_self {q e : Nat} (hq : q ≤ 2 ^ 53) :
    roundUnits (q * 2 ^ e) 1 = q * 2 ^ e := by
  rcases Nat.lt_or_eq_of_le hq with hlt | rfl
  · exact roundUnits_of_lt hlt
  · have hcarry : 2 ^ 53 * 2 ^ e = 2 ^ 52 * 2 ^ (e + 1) := by ring
    rw [hcarry]
    exact roundUnits_of_lt (Nat.pow_lt_pow_right (by decide) (by decide))

theorem roundUnits_roundUnits (num den : Nat) :
    roundUnits (roundUnits num den) 1 = roundUnits num den := by
  obtain ⟨q, e, hq, h⟩ := exists_roundUnits num den
  rw [h]
  exact roundUnits_eq_self hq

-- Unfolding would make numerals of hundreds of digits.
attribute [local irreducible] overflowUnits

structure IsMagnitude (units : Nat) : Prop where
  rounded : roundUnits units 1 = units
  lt_overflow : units < overflowUnits

def IsValue : Double → Prop
  | finite _ units => IsMagnitude units
  | infinite _ => True
  | nan => True

theorem ofUnits_of_lt {num den : Nat} (h : roundUnits num den < overflowUnits) (negative : Bool) :
    ofUnits negative num den = finite negative (roundUnits num den) :=
  if_pos h

theorem isValue_ofUnits (negative : Bool) (num den : Nat) : (ofUnits negative num den).IsValue := by
  by_cases h : roundUnits num den < overflowUnits
  · rw [ofUnits_of_lt h]
    exact ⟨roundUnits_roundUnits num den, h⟩
  · rw [show ofUnits negative num den = infinite negative from if_neg h]
    trivial

theorem isValue_mul (x y : Double) : (x.mul y).IsValue := by
  rw [mul.eq_def]
  split
  · exact isValue_ofUnits _ _ _
  · split <;> trivial
  · split <;> trivial
  · trivial
  · trivial

theorem ofUnits_of_isMagnitude {units : Nat} (h : IsMagnitude units) (negative : Bool) :
    ofUnits negative units 1 = finite negative units := by
  have hlt : roundUnits units 1 < overflowUnits := h.rounded.symm ▸ h.lt_overflow
  rw [ofUnits_of_lt hlt, h.rounded]

def place : Double → WithBot (WithTop Int)
  | finite negative units => ((signed negative units : WithTop Int) : WithBot (WithTop Int))
  | infinite false => ⊤
  | infinite true => ⊥
  | nan => ⊥

theorem lt_iff_place_lt {x y : Double} (hx : x ≠ nan) (hy : y ≠ nan) :
    x.lt y = true ↔ x.place < y.place := by
  cases x with
  | nan => exact absurd rfl hx
  | finite n u =>
    cases y with
    | nan => exact absurd rfl hy
    | finite m v => simp [lt, place]
    | infinite m => cases m <;> simp [lt, place, lt_top_iff_ne_top]
  | infinite n =>
    cases y with
    | nan => exact absurd rfl hy
    | finite m v => cases n <;> simp [lt, place, bot_lt_iff_ne_bot]
    | infinite m => cases n <;> cases m <;> simp [lt, place]

theorem ofUnits_ne_nan (negative : Bool) (num den : Nat) : ofUnits negative num den ≠ nan := by
  simp only [ofUnits]
  split <;> simp

theorem ofDecimal_ne_nan (negative : Bool) (mantissa : Nat) (exponent : Int) :
    ofDecimal negative mantissa exponent ≠ nan := by
  simp only [ofDecimal]
  split
  · simp
  · split
    · simp
    · split
      · simp
      · split <;> exact ofUnits_ne_nan _ _ _

end TableTalk.Double

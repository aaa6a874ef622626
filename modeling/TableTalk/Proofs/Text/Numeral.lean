import Mathlib
import TableTalk.Proofs.Text.Ascii
import TableTalk.Text.Digit

/-!
# Rows of decimal digits

What a row of digits denotes: rows put together, zeros, and the usual way to write a number.
-/

namespace TableTalk.Text

theorem digit?_of_isDigit {c : Char} (h : c.isDigit = true) :
    digit? c = some (c.toNat - '0'.toNat) := by
  have hword : isWordAscii c = true := by simp [isWordAscii, Char.isAlphanum, h]
  exact forall_ascii (p := fun c => c.isDigit = true → digit? c = some (c.toNat - '0'.toNat))
    (by decide) (toNat_lt_of_isWordAscii hword) h

theorem numeral_eq_ofDigitChars {cs : List Char} (h : ∀ c ∈ cs, c.isDigit = true) :
    numeral cs = Nat.ofDigitChars 10 cs 0 := by
  rw [numeral, Nat.ofDigitChars_eq_foldl]
  apply List.foldl_ext
  intro n c hc
  rw [digit?_of_isDigit (h c hc), Option.getD_some]

theorem numeral_concat (cs : List Char) (c : Char) :
    numeral (cs ++ [c]) = 10 * numeral cs + (digit? c).getD 0 := by
  rw [numeral, List.foldl_append]
  rfl

theorem numeral_append (a b : List Char) :
    numeral (a ++ b) = numeral a * 10 ^ b.length + numeral b := by
  induction b using List.reverseRecOn with
  | nil => simp [numeral]
  | append_singleton b c ih =>
    rw [← List.append_assoc, numeral_concat, numeral_concat, ih, List.length_append,
      List.length_singleton, pow_succ]
    ring

theorem numeral_replicate_zero (n : Nat) : numeral (List.replicate n '0') = 0 := by
  induction n with
  | zero => rfl
  | succ n ih =>
    rw [List.replicate_succ', numeral_concat, ih]
    rfl

theorem digit?_getD_lt (c : Char) : (digit? c).getD 0 < 10 := by
  by_cases hc : c.toNat < 128
  · exact forall_ascii (p := fun c => (digit? c).getD 0 < 10) (by decide) hc
  · rw [digit?, if_neg hc]
    cases hfind : digitZeros.find? fun z => z ≤ c.toNat && c.toNat ≤ z + 9 with
    | none => exact Nat.zero_lt_succ 9
    | some z =>
      have hrange := List.find?_some hfind
      simp only [Bool.and_eq_true, decide_eq_true_eq] at hrange
      simp only [Option.map_some, Option.getD_some]
      omega

theorem numeral_lt (cs : List Char) : numeral cs < 10 ^ cs.length := by
  induction cs using List.reverseRecOn with
  | nil => decide
  | append_singleton cs c ih =>
    have hdigit := digit?_getD_lt c
    rw [numeral_concat, List.length_append, List.length_singleton, pow_succ]
    omega

theorem isDigit_of_mem_repr {n : Nat} {c : Char} (h : c ∈ (Nat.repr n).toList) :
    c.isDigit = true := by
  rw [Nat.toList_repr] at h
  exact Nat.isDigit_of_mem_toDigits (by decide) (by decide) h

theorem numeral_repr (n : Nat) : numeral (Nat.repr n).toList = n := by
  rw [numeral_eq_ofDigitChars fun _ => isDigit_of_mem_repr, Nat.toList_repr]
  exact Nat.ofDigitChars_ten_toDigits

theorem repr_ne_nil (n : Nat) : (Nat.repr n).toList ≠ [] := by
  rw [Nat.toList_repr]
  exact Nat.toDigits_ne_nil

theorem length_repr_le_iff {n k : Nat} (hk : 0 < k) : (Nat.repr n).length ≤ k ↔ n < 10 ^ k := by
  rw [← String.length_toList, Nat.toList_repr]
  exact Nat.length_toDigits_le_iff (by decide) hk

theorem length_repr_mul_ten {n : Nat} (hn : n ≠ 0) :
    (Nat.repr (n * 10)).length = (Nat.repr n).length + 1 := by
  have hdigits : Nat.toDigits 10 n ++ Nat.toDigits 10 0 = Nat.toDigits 10 (10 * n + 0) :=
    Nat.toDigits_append_toDigits (by decide) (Nat.pos_of_ne_zero hn) (by decide)
  rw [Nat.add_zero, Nat.mul_comm] at hdigits
  rw [← String.length_toList, ← String.length_toList, Nat.toList_repr, Nat.toList_repr, ← hdigits,
    List.length_append]
  rfl

theorem length_repr_mul_pow {n : Nat} (hn : n ≠ 0) (k : Nat) :
    (Nat.repr (n * 10 ^ k)).length = (Nat.repr n).length + k := by
  induction k with
  | zero => simp
  | succ k ih =>
    have hne : n * 10 ^ k ≠ 0 := Nat.mul_ne_zero hn (pow_ne_zero k (by decide))
    rw [pow_succ, ← Nat.mul_assoc, length_repr_mul_ten hne, ih, Nat.add_assoc]

theorem length_repr_pow (k : Nat) : (Nat.repr (10 ^ k)).length = k + 1 := by
  have hlength := length_repr_mul_pow Nat.one_ne_zero k
  rwa [Nat.one_mul, Nat.add_comm] at hlength

/-- A number that is not zero is written without a zero in front. -/
theorem head?_repr_ne {n : Nat} (hn : n ≠ 0) : (Nat.repr n).toList.head? ≠ some '0' := by
  rw [Nat.toList_repr]
  induction n using Nat.strong_induction_on with
  | _ n ih =>
    by_cases hlt : n < 10
    · rw [Nat.toDigits_of_lt_base hlt]
      have hdigit : ∀ n : Fin 10, n.val ≠ 0 → [n.val.digitChar].head? ≠ some '0' := by decide
      exact hdigit ⟨n, hlt⟩ hn
    · rw [Nat.toDigits_of_base_le (by decide) (by omega),
        List.head?_append_of_ne_nil _ Nat.toDigits_ne_nil]
      exact ih (n / 10) (by omega) (by omega)

end TableTalk.Text

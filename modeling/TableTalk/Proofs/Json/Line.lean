import TableTalk.Proofs.Json.RoundTrip

/-!
# JSON values on one line

No control character stands in the text that is written for a value, so it is a line of its own.
-/

namespace TableTalk.Json

open Double Text

def IsLine (cs : List Char) : Prop :=
  ∀ c ∈ cs, 0x20 ≤ c.toNat

namespace IsLine

theorem nil : IsLine [] :=
  fun _ hc => absurd hc List.not_mem_nil

theorem cons {c : Char} {cs : List Char} (hc : 0x20 ≤ c.toNat) (h : IsLine cs) :
    IsLine (c :: cs) :=
  List.forall_mem_cons.2 ⟨hc, h⟩

theorem append {a b : List Char} (ha : IsLine a) (hb : IsLine b) : IsLine (a ++ b) :=
  fun c hc => (List.mem_append.1 hc).elim (ha c) (hb c)

theorem notMem {cs : List Char} (h : IsLine cs) {c : Char} (hc : c.toNat < 0x20) : c ∉ cs :=
  fun hmem => absurd (h c hmem) (Nat.not_le_of_lt hc)

end IsLine

instance (cs : List Char) : Decidable (IsLine cs) :=
  List.decidableBAll _ cs

theorem isLine_of_isNumberChar {cs : List Char} (h : ∀ c ∈ cs, IsNumberChar c) : IsLine cs := by
  intro c hc
  rcases h c hc with hdigit | hmark
  · have hzero : '0'.val ≤ c.val := (Bool.and_eq_true_iff.1 hdigit).1 |> of_decide_eq_true
    exact Nat.le_trans (by decide) (UInt32.le_iff_toNat_le.1 hzero)
  · exact (by decide : IsLine numberMarks) c hmark

theorem isLine_escapeChar (c : Char) : IsLine (escapeChar c) := by
  rcases escapeChar_cases c with
    ⟨letter, hescape, hletter⟩ | ⟨hcontrol, hescape⟩ | ⟨hescape, hplain, -⟩
  · rw [hescape]
    exact .cons (by decide) (.cons (letter_of_shortEscape? hletter).1 .nil)
  · have hdigits : ∀ n : Fin 0x20, IsLine (hexDigits 4 n.val) := by decide
    rw [hescape]
    exact .cons (by decide) (.cons (by decide) (hdigits ⟨c.toNat, hcontrol⟩))
  · rw [hescape]
    exact .cons hplain .nil

theorem isLine_writeText (s : String) : IsLine (writeText s) := by
  refine .cons (by decide) (.append ?_ (by decide))
  intro d hd
  obtain ⟨c, -, hc⟩ := List.mem_flatMap.1 hd
  exact isLine_escapeChar c d hc

theorem isLine_writeItems {items : List Json} (h : ∀ j ∈ items, IsLine (writeChars j)) :
    IsLine (writeItems items) := by
  induction items with
  | nil => exact .nil
  | cons j items ih =>
    have hj := h j List.mem_cons_self
    by_cases hitems : items = []
    · rw [hitems, writeItems]
      exact hj
    · rw [writeItems_cons hitems]
      exact hj.append (.cons (by decide) (.cons (by decide)
        (ih fun j hmem => h j (List.mem_cons_of_mem _ hmem))))

theorem isLine_writeFields {fields : List (String × Json)}
    (h : ∀ f ∈ fields, IsLine (writeChars f.2)) : IsLine (writeFields fields) := by
  induction fields with
  | nil => exact .nil
  | cons f fields ih =>
    have hf := h f List.mem_cons_self
    by_cases hfields : fields = []
    · rw [hfields, writeFields_single]
      exact (isLine_writeText f.1).append (.cons (by decide) (.cons (by decide) hf))
    · have hmore := ih fun f hmem => h f (List.mem_cons_of_mem _ hmem)
      rw [writeFields_cons hfields]
      exact (isLine_writeText f.1).append (.cons (by decide) (.cons (by decide)
        (hf.append (.cons (by decide) (.cons (by decide) hmore)))))

theorem isLine_writeChars {j : Json} (h : IsValue j) : IsLine (writeChars j) := by
  induction h with
  | null => decide
  | bool b => cases b <;> decide
  | int _ => exact isLine_of_isNumberChar isNumberChar_of_mem_int
  | float h => exact isLine_of_isNumberChar (isNumberChar_of_mem_float h)
  | text s => exact isLine_writeText s
  | list _ ih =>
    rw [← List.append_nil (writeChars _), writeChars_list]
    exact .cons (by decide) ((isLine_writeItems ih).append (by decide))
  | record _ _ ih =>
    rw [← List.append_nil (writeChars _), writeChars_record]
    exact .cons (by decide) ((isLine_writeFields ih).append (by decide))

end TableTalk.Json

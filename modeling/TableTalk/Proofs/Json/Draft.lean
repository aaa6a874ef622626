import TableTalk.Json.Writer
import TableTalk.Proofs.Json.Encoded

/-!
# Values that are written to their end

A value is written to its end exactly if its lists and records find room inside one another and its
whole numbers have no more digits than may be written. Its text is then the one that reading takes
back.
-/

namespace TableTalk.Json

open Double Text

theorem sizeOf_item_lt {j : Json} {items : List Json} (h : j ∈ items) :
    sizeOf j < sizeOf (list items) := by
  have hmem := List.sizeOf_lt_of_mem h
  simp only [list.sizeOf_spec]
  omega

theorem sizeOf_snd_lt {f : String × Json} {fields : List (String × Json)} (h : f ∈ fields) :
    sizeOf f.2 < sizeOf (record fields) := by
  have hmem := List.sizeOf_lt_of_mem h
  obtain ⟨n, j⟩ := f
  simp only [Prod.mk.sizeOf_spec] at hmem
  simp only [record.sizeOf_spec]
  omega

theorem induction {p : Json → Prop} (null : p .null) (bool : ∀ b, p (.bool b))
    (int : ∀ i, p (.int i)) (float : ∀ d, p (.float d)) (text : ∀ s, p (.text s))
    (list : ∀ items, (∀ j ∈ items, p j) → p (.list items))
    (record : ∀ fields, (∀ f ∈ fields, p f.2) → p (.record fields)) (j : Json) : p j :=
  match j with
  | .null => null
  | .bool b => bool b
  | .int i => int i
  | .float d => float d
  | .text s => text s
  | .list items => list items fun j _ => induction null bool int float text list record j
  | .record fields =>
    record fields fun f _ => induction null bool int float text list record f.2
termination_by sizeOf j
decreasing_by
  · exact sizeOf_item_lt ‹j ∈ items›
  · exact sizeOf_snd_lt ‹f ∈ fields›

/-- The value has at most so many lists and records inside one another, and no whole number in it
has more digits than may be written. -/
inductive IsWritable : Nat → Json → Prop
  | null {n : Nat} : IsWritable n .null
  | bool {n : Nat} (b : Bool) : IsWritable n (.bool b)
  | int {n : Nat} {i : Int} : i.natAbs < 10 ^ digitLimit → IsWritable n (.int i)
  | float {n : Nat} (d : Double) : IsWritable n (.float d)
  | text {n : Nat} (s : String) : IsWritable n (.text s)
  | list {n : Nat} {items : List Json} : (∀ j ∈ items, IsWritable n j) →
      IsWritable (n + 1) (.list items)
  | record {n : Nat} {fields : List (String × Json)} : (∀ f ∈ fields, IsWritable n f.2) →
      IsWritable (n + 1) (.record fields)

theorem isWritable_of_nestsWithin {n m : Nat} {j : Json} (hvalue : IsValue j)
    (hnests : NestsWithin n j) (hle : n ≤ m) : IsWritable m j := by
  induction hnests generalizing m with
  | null => exact .null
  | bool b => exact .bool b
  | int i =>
    cases hvalue with
    | int hi => exact .int hi
  | float d => exact .float d
  | text s => exact .text s
  | list _ ih =>
    obtain ⟨m, rfl⟩ := Nat.exists_eq_succ_of_ne_zero (Nat.ne_zero_of_lt hle)
    cases hvalue with
    | list hitems =>
      exact .list fun j hj => ih j hj (hitems j hj) (Nat.le_of_succ_le_succ hle)
  | record _ ih =>
    obtain ⟨m, rfl⟩ := Nat.exists_eq_succ_of_ne_zero (Nat.ne_zero_of_lt hle)
    cases hvalue with
    | record _ hfields =>
      exact .record fun f hf => ih f hf (hfields f hf) (Nat.le_of_succ_le_succ hle)

namespace Draft

theorem whole_append (cs : List Char) (d : Draft) : whole cs ++ d = ⟨cs ++ d.text, d.error⟩ :=
  rfl

theorem whole_append_whole (a b : List Char) : whole a ++ whole b = whole (a ++ b) :=
  rfl

theorem error_append_eq_none_iff (a b : Draft) :
    (a ++ b).error = none ↔ a.error = none ∧ b.error = none := by
  obtain ⟨text, error⟩ := a
  cases error with
  | none => exact (and_iff_right rfl).symm
  | some e => exact iff_of_false (Option.some_ne_none e) fun h => Option.some_ne_none e h.1

end Draft

open Draft

variable {room : Nat} {opening : List Char} {items : List Json} {fields : List (String × Json)}

theorem draftInt_of_lt {i : Int} (h : i.natAbs < 10 ^ digitLimit) :
    draftInt i = whole (toString i).toList :=
  if_neg (Nat.not_lt_of_le ((length_repr_le_iff (by decide)).2 h))

theorem draftInt_of_le {i : Int} (h : 10 ^ digitLimit ≤ i.natAbs) :
    draftInt i = broken (.hugeInteger (Nat.repr i.natAbs).length) :=
  if_pos (Nat.lt_of_not_le (mt (length_repr_le_iff (by decide)).1 (Nat.not_lt_of_le h)))

theorem pow_le_natAbs_pow {n k : Nat} (h : n ≤ k) : 10 ^ n ≤ ((10 : Int) ^ k).natAbs := by
  rw [Int.natAbs_pow]
  exact Nat.pow_le_pow_right (Nat.succ_pos 9) h

theorem draftInt_pow {k : Nat} (h : digitLimit ≤ k) :
    draftInt (10 ^ k) = broken (.hugeInteger (k + 1)) := by
  have habs : ((10 : Int) ^ k).natAbs = 10 ^ k := Int.natAbs_pow 10 k
  rw [draftInt_of_le (pow_le_natAbs_pow h), habs, length_repr_pow]

theorem error_draftItem_eq_none_iff (opening : List Char) (j : Json) (d : Draft) :
    (draftItem opening j d).error = none ↔ d.error = none := by
  obtain ⟨text, error⟩ := d
  cases j <;> cases error <;> rfl

theorem draftItem_whole (opening : List Char) (j : Json) (cs : List Char) :
    draftItem opening j (whole cs) = whole (opening ++ cs) := by
  cases j <;> rfl

theorem error_draftItems_eq_none_iff :
    (draftItems room opening items).error = none ↔ ∀ j ∈ items, (draft room j).error = none := by
  induction items generalizing opening with
  | nil => simp [draftItems, whole]
  | cons j items ih =>
    rw [draftItems, error_append_eq_none_iff, error_draftItem_eq_none_iff, ih, List.forall_mem_cons]

theorem error_draftFields_eq_none_iff :
    (draftFields room opening fields).error = none ↔
      ∀ f ∈ fields, (draft room f.2).error = none := by
  induction fields generalizing opening with
  | nil => simp [draftFields, whole]
  | cons f fields ih =>
    rw [draftFields, whole_append, error_append_eq_none_iff, ih, List.forall_mem_cons]

/-- Just the values that have room and no number too long are written to their end. -/
theorem error_draft_eq_none_iff {j : Json} : (draft room j).error = none ↔ IsWritable room j := by
  induction j using induction generalizing room with
  | null => exact iff_of_true rfl .null
  | bool b => exact iff_of_true rfl (.bool b)
  | float d => exact iff_of_true rfl (.float d)
  | text s => exact iff_of_true rfl (.text s)
  | int i =>
    rw [draft]
    by_cases hi : i.natAbs < 10 ^ digitLimit
    · exact iff_of_true (by rw [draftInt_of_lt hi]; rfl) (.int hi)
    · refine iff_of_false ?_ fun h => ?_
      · rw [draftInt_of_le (Nat.not_lt.1 hi)]
        exact Option.some_ne_none _
      · cases h with
        | int h => exact hi h
  | list items ih =>
    cases room with
    | zero => exact iff_of_false (Option.some_ne_none _) fun h => nomatch h
    | succ room =>
      have hitems : (draft (room + 1) (.list items)).error = none ↔
          ∀ j ∈ items, (draft room j).error = none := by
        cases items with
        | nil => simp [draft, whole]
        | cons j items =>
          rw [draft, List.isEmpty_cons, if_neg Bool.false_ne_true, error_append_eq_none_iff,
            error_draftItems_eq_none_iff]
          exact and_iff_left rfl
      rw [hitems]
      constructor
      · exact fun h => .list fun j hj => (ih j hj).1 (h j hj)
      · rintro (_ | _ | _ | _ | _ | h | _) j hj
        exact (ih j hj).2 (h j hj)
  | record fields ih =>
    cases room with
    | zero => exact iff_of_false (Option.some_ne_none _) fun h => nomatch h
    | succ room =>
      rw [draft, whole_append, error_append_eq_none_iff, error_draftFields_eq_none_iff]
      constructor
      · exact fun h => .record fun f hf => (ih f hf).1 (h.1 f hf)
      · rintro (_ | _ | _ | _ | _ | _ | h)
        exact ⟨fun f hf => (ih f hf).2 (h f hf), rfl⟩

theorem draftItems_eq_whole (hne : items ≠ [])
    (h : ∀ j ∈ items, draft room j = whole (writeChars j)) :
    draftItems room opening items = whole (opening ++ writeItems items) := by
  induction items generalizing opening with
  | nil => exact absurd rfl hne
  | cons j items ih =>
    obtain ⟨hj, hitems⟩ := List.forall_mem_cons.1 h
    rw [draftItems, hj, draftItem_whole]
    by_cases hnil : items = []
    · rw [hnil, draftItems, writeItems, whole_append_whole, List.append_nil]
    · rw [ih hnil hitems, writeItems_cons hnil, whole_append_whole, List.append_assoc]
      rfl

theorem draftFields_eq_whole (hne : fields ≠ [])
    (h : ∀ f ∈ fields, draft room f.2 = whole (writeChars f.2)) :
    draftFields room opening fields = whole (opening ++ writeFields fields) := by
  induction fields generalizing opening with
  | nil => exact absurd rfl hne
  | cons f fields ih =>
    obtain ⟨hf, hfields⟩ := List.forall_mem_cons.1 h
    rw [draftFields, hf]
    by_cases hnil : fields = []
    · rw [hnil, draftFields, writeFields_single, whole_append_whole, whole_append_whole]
      simp
    · rw [ih hnil hfields, writeFields_cons hnil, whole_append_whole, whole_append_whole]
      simp

theorem draft_eq_whole {j : Json} (h : IsWritable room j) :
    draft room j = whole (writeChars j) := by
  induction h with
  | null => rfl
  | bool b => rfl
  | int hi => rw [draft, draftInt_of_lt hi, writeChars]
  | float d => rfl
  | text s => rfl
  | @list room items _ ih =>
    by_cases hnil : items = []
    · rw [hnil]
      rfl
    · rw [draft, List.isEmpty_eq_false_iff.2 hnil, if_neg Bool.false_ne_true,
        draftItems_eq_whole hnil ih, whole_append_whole, writeChars]
      rfl
  | @record room fields _ ih =>
    by_cases hnil : fields = []
    · rw [hnil]
      rfl
    · rw [draft, draftFields_eq_whole hnil ih, whole_append_whole, whole_append_whole, writeChars]
      rfl

end TableTalk.Json

import Mathlib.Data.List.Nodup
import TableTalk.Table.Basic

/-!
# Rows as records

A slice between two positions counted from the start holds the items between them. The record of a
row that is as wide as the headers has each header once, with the cell at the place where the header
first stands.
-/

namespace TableTalk

theorem clampIndex_natCast (n i : Nat) : clampIndex n i = min n i := by
  rw [clampIndex, if_neg (by omega), Int.toNat_natCast]

theorem slice_all {α : Type} (xs : List α) : slice 0 none xs = xs := by
  have hfirst : clampIndex xs.length 0 = 0 := by
    have h := clampIndex_natCast xs.length 0
    rwa [Nat.min_zero] at h
  rw [slice, hfirst, List.drop_zero]
  exact List.take_length

/-- At most `count` items from the position `first` on. -/
theorem slice_natCast {α : Type} (first count : Nat) (xs : List α) :
    slice first (some (first + count)) xs = (xs.drop first).take count := by
  have hstop : clampIndex xs.length (first + count) = min xs.length (first + count) := by
    rw [← Int.natCast_add, clampIndex_natCast]
  rw [slice, Option.map_some, Option.getD_some, hstop, clampIndex_natCast]
  rcases Nat.le_total xs.length first with h | h
  · rw [Nat.min_eq_left h, List.drop_eq_nil_of_le (by rw [List.length_take]; omega),
      List.drop_eq_nil_of_le h, List.take_nil]
  · rw [Nat.min_eq_right h, List.drop_take, List.take_eq_take_iff, List.length_drop]
    omega

namespace Table

theorem records_all (t : Table) : t.records 0 none = t.rows.map (record t.headers) := by
  rw [records, Option.map_none, slice_all]

theorem records_page (t : Table) (offset limit : Nat) :
    t.records offset (some limit) = ((t.rows.drop offset).take limit).map (record t.headers) := by
  rw [records, Option.map_some, slice_natCast]

def addField (fields : List (String × Cell)) (field : String × Cell) : List (String × Cell) :=
  if fields.any (·.1 == field.1) then fields else fields ++ [field]

theorem record_eq (headers : List String) (row : List Cell) :
    record headers row = (headers.zip row).foldl addField [] :=
  rfl

def names (fields : List (String × Cell)) : List String :=
  fields.map Prod.fst

variable {fields more : List (String × Cell)} {field : String × Cell} {headers : List String}
  {row : List Cell} {name : String}

theorem any_eq_true_iff : fields.any (·.1 == name) = true ↔ name ∈ names fields := by
  simp [names]

theorem isSome_lookup_iff : (fields.lookup name).isSome = true ↔ name ∈ names fields := by
  rw [List.lookup_isSome_iff, names, List.mem_map]
  constructor
  · rintro ⟨field, hfield, hname⟩
    exact ⟨field, hfield, (beq_iff_eq.1 hname).symm⟩
  · rintro ⟨field, hfield, rfl⟩
    exact ⟨field, hfield, beq_self_eq_true _⟩

theorem addField_of_mem (h : field.1 ∈ names fields) : addField fields field = fields :=
  if_pos (any_eq_true_iff.2 h)

theorem addField_of_notMem (h : field.1 ∉ names fields) :
    addField fields field = fields ++ [field] :=
  if_neg fun hany => h (any_eq_true_iff.1 hany)

theorem nodup_addField (h : (names fields).Nodup) : (names (addField fields field)).Nodup := by
  by_cases hmem : field.1 ∈ names fields
  · rwa [addField_of_mem hmem]
  · rw [addField_of_notMem hmem, names, List.map_append, List.nodup_append]
    refine ⟨h, List.nodup_singleton _, fun a ha b hb hab => hmem ?_⟩
    rw [← List.mem_singleton.1 hb, ← hab]
    exact ha

theorem lookup_addField (fields : List (String × Cell)) (field : String × Cell) (name : String) :
    (addField fields field).lookup name = (fields.lookup name).or ([field].lookup name) := by
  by_cases hmem : field.1 ∈ names fields
  · rw [addField_of_mem hmem]
    by_cases hname : name = field.1
    · rw [hname, Option.or_of_isSome (isSome_lookup_iff.2 hmem)]
    · have hnone : [field].lookup name = none := by
        rw [List.lookup_cons, beq_false_of_ne hname]
        rfl
      rw [hnone, Option.or_none]
  · rw [addField_of_notMem hmem, List.lookup_append]

/-- Of several fields of one name the first one is kept. -/
theorem lookup_foldl_addField (more fields : List (String × Cell)) (name : String) :
    (more.foldl addField fields).lookup name = (fields.lookup name).or (more.lookup name) := by
  induction more generalizing fields with
  | nil => exact Option.or_none.symm
  | cons field more ih =>
    have hcons : (field :: more).lookup name = ([field].lookup name).or (more.lookup name) := by
      rw [← List.singleton_append, List.lookup_append]
    rw [List.foldl_cons, ih, lookup_addField, Option.or_assoc, hcons]

theorem nodup_foldl_addField (h : (names fields).Nodup) :
    (names (more.foldl addField fields)).Nodup := by
  induction more generalizing fields with
  | nil => exact h
  | cons field more ih => exact ih (nodup_addField h)

theorem lookup_record (headers : List String) (row : List Cell) (name : String) :
    (record headers row).lookup name = (headers.zip row).lookup name := by
  rw [record_eq, lookup_foldl_addField, List.lookup_nil, Option.none_or]

/-- Below a header stands the cell at its first place. -/
theorem lookup_zip (hwide : row.length = headers.length) (hname : name ∈ headers) :
    (headers.zip row).lookup name = row[headers.idxOf name]? := by
  induction headers generalizing row with
  | nil => cases hname
  | cons header headers ih =>
    cases row with
    | nil => cases hwide
    | cons cell row =>
      rw [List.zip_cons_cons, List.lookup_cons]
      by_cases heq : name = header
      · rw [heq, beq_self_eq_true, List.idxOf_cons_self]
        rfl
      · rw [beq_false_of_ne heq, List.idxOf_cons_ne _ (Ne.symm heq), List.getElem?_cons_succ]
        exact ih (Nat.succ.inj hwide) ((List.mem_cons.1 hname).resolve_left heq)

/-- The fields are named after the headers, each once, and under each header there is the cell of
the row at the first place of the header. -/
structure IsRecordOf (headers : List String) (row : List Cell) (fields : List (String × Cell)) :
    Prop where
  nodup : (names fields).Nodup
  mem_iff : ∀ name, name ∈ names fields ↔ name ∈ headers
  lookup_eq : ∀ name ∈ headers, ∃ cell, row[headers.idxOf name]? = some cell ∧
    fields.lookup name = some cell

theorem isRecordOf_record (hwide : row.length = headers.length) :
    IsRecordOf headers row (record headers row) where
  nodup := nodup_foldl_addField List.nodup_nil
  mem_iff name := by
    have hnames : names (headers.zip row) = headers := List.map_fst_zip (Nat.le_of_eq hwide.symm)
    rw [← isSome_lookup_iff, lookup_record, isSome_lookup_iff, hnames]
  lookup_eq name hname := by
    have hplace : headers.idxOf name < row.length := hwide ▸ List.idxOf_lt_length_of_mem hname
    exact ⟨row[headers.idxOf name], List.getElem?_eq_getElem hplace, by
      rw [lookup_record, lookup_zip hwide hname, List.getElem?_eq_getElem hplace]⟩

end Table

end TableTalk

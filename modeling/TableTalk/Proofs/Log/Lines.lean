import TableTalk.Log.Journal
import TableTalk.Proofs.Failure
import TableTalk.Proofs.Json.Encoded
import TableTalk.Proofs.Json.Line

/-!
# The lines of a log file

The bytes of a log file are the records of its ticket, one to a line, and reading them gives the
records again.
-/

namespace TableTalk.Log

open Text
open Json (IsValue IsLine NestsWithin nestingLimit)

def linesOf (records : List Json) : List Char :=
  records.flatMap fun r => r.writeChars ++ ['\n']

theorem linesOf_append (a b : List Json) : linesOf (a ++ b) = linesOf a ++ linesOf b :=
  List.flatMap_append

theorem linesOf_cons (r : Json) (records : List Json) :
    linesOf (r :: records) = r.writeChars ++ '\n' :: linesOf records := by
  rw [linesOf, List.flatMap_cons, List.append_assoc]
  rfl

theorem toList_write_append (r : Json) : (r.write ++ "\n").toList = linesOf [r] := by
  rw [String.toList_append, Json.write, String.toList_ofList, linesOf_cons]
  rfl

theorem splitOn_append {sep : Char} {a : List Char} (h : sep ∉ a) (rest : List Char) :
    splitOn sep (a ++ sep :: rest) = a :: splitOn sep rest := by
  induction a with
  | nil => rw [List.nil_append, splitOn, if_pos rfl]
  | cons c a ih =>
    have hc : c ≠ sep := fun hc => h (hc ▸ List.mem_cons_self)
    rw [List.cons_append, splitOn, if_neg hc, ih fun hmem => h (List.mem_cons_of_mem c hmem)]

theorem splitOn_linesOf {records : List Json} (h : ∀ r ∈ records, '\n' ∉ r.writeChars) :
    splitOn '\n' (linesOf records) = records.map Json.writeChars ++ [[]] := by
  induction records with
  | nil => rfl
  | cons r records ih =>
    rw [linesOf_cons, splitOn_append (h r List.mem_cons_self),
      ih fun r hr => h r (List.mem_cons_of_mem _ hr)]
    rfl

theorem notMem_linesOf {records : List Json} (h : ∀ r ∈ records, '\r' ∉ r.writeChars) :
    '\r' ∉ linesOf records := by
  intro hmem
  obtain ⟨r, hr, hline⟩ := List.mem_flatMap.1 hmem
  rcases List.mem_append.1 hline with hline | hline
  · exact h r hr hline
  · exact absurd (List.mem_singleton.1 hline) (by decide)

structure IsRecord (r : Json) : Prop where
  isValue : IsValue r
  exists_fields : ∃ fields, r = .record fields

structure IsReadable (r : Json) : Prop extends IsRecord r where
  nests : NestsWithin nestingLimit r

theorem allBlank_writeChars {r : Json} (h : IsRecord r) : allBlank r.writeChars = false := by
  obtain ⟨fields, rfl⟩ := h.exists_fields
  rw [← List.append_nil (Json.writeChars _), Json.writeChars_record]
  rfl

theorem readRecord_writeChars {r : Json} (h : IsReadable r) :
    Journal.readRecord r.writeChars = .ok r := by
  rw [Journal.readRecord, Json.isTooDeep_writeChars h.isValue h.nests (Nat.le_refl _),
    if_neg Bool.false_ne_true, Json.parseChars_writeChars h.isValue]
  rfl

/-- The records on the lines of a file, if all of them can be read, are those that it was written
with. -/
theorem mapM_readRecord {records : List Json} (h : ∀ r ∈ records, IsReadable r) :
    records.mapM (fun r => Journal.readRecord r.writeChars) = .ok records := by
  rw [mapM_eq_map fun r hr => readRecord_writeChars (h r hr), List.map_id']

theorem mapM_lines {records : List Json} (h : ∀ r ∈ records, IsRecord r) :
    ((splitOn '\n' (linesOf records)).filter fun line => !allBlank line).mapM Journal.readRecord =
      records.mapM fun r => Journal.readRecord r.writeChars := by
  have hbreak : ∀ r ∈ records, '\n' ∉ r.writeChars := fun r hr =>
    (Json.isLine_writeChars (h r hr).isValue).notMem (by decide)
  have hlines : (records.map Json.writeChars).filter (fun line => !allBlank line) =
      records.map Json.writeChars := by
    refine List.filter_eq_self.2 fun line hline => ?_
    obtain ⟨r, hr, rfl⟩ := List.mem_map.1 hline
    rw [allBlank_writeChars (h r hr)]
    rfl
  rw [splitOn_linesOf hbreak, List.filter_append, hlines]
  exact (congrArg (List.mapM Journal.readRecord) (List.append_nil _)).trans List.mapM_map

/-- The bytes of a file with these records; without any there is no file. -/
def bytesOf (records : List Json) : Option (List UInt8) :=
  if records = [] then none else some (encodeUtf8 (linesOf records))

theorem bytesOf_append (records : List Json) (r : Json) :
    bytesOf (records ++ [r]) =
      some ((bytesOf records).getD [] ++ encodeUtf8 (r.write ++ "\n").toList) := by
  have hne : records ++ [r] ≠ [] := by simp
  rw [bytesOf, if_neg hne, linesOf_append, encodeUtf8_append, toList_write_append]
  by_cases hrecords : records = []
  · rw [bytesOf, if_pos hrecords, hrecords]
    rfl
  · rw [bytesOf, if_neg hrecords]
    rfl

/-- The text of a file that was written with these records. -/
theorem text_bytesOf {records : List Json} (h : ∀ r ∈ records, IsRecord r) :
    (decodeUtf8? (encodeUtf8 (linesOf records))).map unifyNewlines = some (linesOf records) := by
  have hreturn : '\r' ∉ linesOf records := notMem_linesOf fun r hr =>
    (Json.isLine_writeChars (h r hr).isValue).notMem (by decide)
  rw [decodeUtf8?_encodeUtf8, Option.map_some, unifyNewlines_eq_self hreturn]

end TableTalk.Log

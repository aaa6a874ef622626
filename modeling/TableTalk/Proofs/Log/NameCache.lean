import Mathlib
import TableTalk.Log.NameCache

/-!
# How long a name is remembered

A key that was used is forgotten only after as many other keys were used as the cache keeps. Until
then a use of it gives the value that was remembered.
-/

namespace TableTalk.Log.NameCache

variable {c : NameCache} {k k' : Key} {name fresh : String} {later : List Key} {size : Nat}

def keys (c : NameCache) : List Key :=
  c.map Prod.fst

/-- The cache remembers a value for a key, and only keys of `later` were used since. -/
def Remembers (c : NameCache) (k : Key) (name : String) (later : List Key) : Prop :=
  ∃ older newer, c = older ++ (k, name) :: newer ∧ ∀ e ∈ newer, e.1 ∈ later

theorem Remembers.mono {later' : List Key} (h : Remembers c k name later)
    (hsub : later ⊆ later') : Remembers c k name later' := by
  obtain ⟨older, newer, hc, hnewer⟩ := h
  exact ⟨older, newer, hc, fun e he => hsub (hnewer e he)⟩

theorem knows_iff : knows k c = true ↔ k ∈ keys c := by
  rw [knows, List.any_eq_true, keys, List.mem_map]
  simp only [decide_eq_true_eq]

theorem use_of_notMem (h : k ∉ keys c) :
    use size k fresh c = (fresh, keepLast size (c ++ [(k, fresh)])) := by
  have hfind : (c.find? fun e => e.1 = k) = none := by
    rw [List.find?_eq_none]
    intro e he hk
    exact h (of_decide_eq_true hk ▸ List.mem_map_of_mem he)
  rw [use, hfind]

theorem use_of_find {e : Key × String} (h : (c.find? fun e => e.1 = k) = some e) :
    use size k fresh c = (e.2, (c.filter fun e => e.1 ≠ k) ++ [(k, e.2)]) := by
  rw [use, h]

theorem exists_find (h : k ∈ keys c) : ∃ v, (c.find? fun e => e.1 = k) = some (k, v) := by
  cases hfind : c.find? fun e => e.1 = k with
  | none =>
    obtain ⟨e, he, hk⟩ := List.mem_map.1 h
    exact absurd (decide_eq_true hk) (List.find?_eq_none.1 hfind e he)
  | some e =>
    have hk : e.1 = k := by simpa using List.find?_some hfind
    exact ⟨e.2, by rw [← hk]⟩

theorem Remembers.find (h : Remembers c k name later) (hnodup : (keys c).Nodup) :
    (c.find? fun e => e.1 = k) = some (k, name) := by
  obtain ⟨older, newer, rfl, -⟩ := h
  have hold : (older.find? fun e => e.1 = k) = none := by
    rw [List.find?_eq_none]
    intro e he hk
    rw [keys, List.map_append, List.nodup_append] at hnodup
    exact hnodup.2.2 _ (List.mem_map_of_mem he) _ List.mem_cons_self (of_decide_eq_true hk)
  rw [List.find?_append, hold, Option.none_or]
  exact List.find?_cons_of_pos (decide_eq_true rfl)

theorem keys_keepLast_sublist (c : NameCache) : (keys (keepLast size c)).Sublist (keys c) :=
  (List.drop_sublist _ c).map Prod.fst

theorem keys_use (size : Nat) (k : Key) (fresh : String) (c : NameCache) :
    ∃ rest, (keys (use size k fresh c).2).Sublist (rest ++ [k]) ∧ rest.Sublist (keys c) ∧
      k ∉ rest := by
  by_cases hk : k ∈ keys c
  · obtain ⟨v, hfind⟩ := exists_find hk
    refine ⟨keys (c.filter fun e => e.1 ≠ k), ?_, List.filter_sublist.map Prod.fst, ?_⟩
    · rw [use_of_find hfind, keys, List.map_append]
      exact List.Sublist.refl _
    · intro hmem
      obtain ⟨e, he, hek⟩ := List.mem_map.1 hmem
      exact absurd hek (of_decide_eq_true (List.mem_filter.1 he).2)
  · refine ⟨keys c, ?_, List.Sublist.refl _, hk⟩
    rw [use_of_notMem hk]
    have hkeys : keys (c ++ [(k, fresh)]) = keys c ++ [k] := List.map_append
    exact hkeys ▸ keys_keepLast_sublist _

theorem nodup_use (hnodup : (keys c).Nodup) : (keys (use size k fresh c).2).Nodup := by
  obtain ⟨rest, hsub, hrest, hk⟩ := keys_use size k fresh c
  refine hsub.nodup (List.nodup_append.2 ⟨hrest.nodup hnodup, List.nodup_singleton k, ?_⟩)
  rintro a ha b hb rfl
  exact hk (List.mem_singleton.1 hb ▸ ha)

theorem mem_keys_of_mem_use (h : k' ∈ keys (use size k fresh c).2) :
    k' = k ∨ k' ∈ keys c := by
  obtain ⟨rest, hsub, hrest, -⟩ := keys_use size k fresh c
  rcases List.mem_append.1 (hsub.subset h) with hmem | hmem
  · exact Or.inr (hrest.subset hmem)
  · exact Or.inl (List.mem_singleton.1 hmem)

/-- What holds of all entries and of the new value for the key holds of the value that is used, and
of all entries after that. -/
theorem forall_mem_use {p : Key → String → Prop} (size : Nat) (hc : ∀ e ∈ c, p e.1 e.2)
    (hfresh : p k fresh) :
    p k (use size k fresh c).1 ∧ ∀ e ∈ (use size k fresh c).2, p e.1 e.2 := by
  by_cases hk : k ∈ keys c
  · obtain ⟨v, hfind⟩ := exists_find hk
    have hv : p k v := hc (k, v) (List.mem_of_find?_eq_some hfind)
    rw [use_of_find hfind]
    refine ⟨hv, fun e he => ?_⟩
    rcases List.mem_append.1 he with he | he
    · exact hc e (List.mem_filter.1 he).1
    · rw [List.mem_singleton.1 he]
      exact hv
  · rw [use_of_notMem hk]
    refine ⟨hfresh, fun e he => ?_⟩
    rcases List.mem_append.1 (List.mem_of_mem_drop he) with he | he
    · exact hc e he
    · rw [List.mem_singleton.1 he]
      exact hfresh

/-- The value of a remembered key is given again, and the key is now the last one used. -/
theorem Remembers.use_self (h : Remembers c k name later) (hnodup : (keys c).Nodup) :
    (use size k fresh c).1 = name ∧ Remembers (use size k fresh c).2 k name [] := by
  rw [use_of_find (h.find hnodup)]
  exact ⟨rfl, _, [], rfl, fun _ he => absurd he List.not_mem_nil⟩

theorem remembers_use_fresh (hk : k ∉ keys c) (hsize : 0 < size) :
    (use size k fresh c).1 = fresh ∧ Remembers (use size k fresh c).2 k fresh [] := by
  rw [use_of_notMem hk]
  refine ⟨rfl, c.drop ((c ++ [(k, fresh)]).length - size), [], ?_,
    fun _ he => absurd he List.not_mem_nil⟩
  rw [keepLast, List.drop_append_of_le_length]
  rw [List.length_append, List.length_singleton]
  omega

theorem mem_keys_append {entries : NameCache} (h : ∀ e ∈ entries, e.1 ∈ later) (v : String) :
    ∀ e ∈ entries ++ [(k', v)], e.1 ∈ later ++ [k'] := by
  intro e he
  rcases List.mem_append.1 he with he | he
  · exact List.mem_append_left _ (h e he)
  · rw [List.mem_singleton.1 he]
    exact List.mem_append_right _ List.mem_cons_self

theorem length_le_card {entries : NameCache} (hnodup : (keys entries).Nodup)
    (h : ∀ e ∈ entries, e.1 ∈ later) : entries.length ≤ later.toFinset.card := by
  calc entries.length = (keys entries).toFinset.card := by
        rw [List.toFinset_card_of_nodup hnodup, keys, List.length_map]
    _ ≤ later.toFinset.card := by
        refine Finset.card_le_card fun key hkey => ?_
        obtain ⟨e, he, rfl⟩ := List.mem_map.1 (List.mem_toFinset.1 hkey)
        exact List.mem_toFinset.2 (h e he)

/-- Nothing is forgotten when another known key is used. -/
theorem Remembers.use_known (h : Remembers c k name later) (hne : k ≠ k') (hk : k' ∈ keys c) :
    Remembers (use size k' fresh c).2 k name (later ++ [k']) := by
  obtain ⟨older, newer, rfl, hnewer⟩ := h
  obtain ⟨v, hfind⟩ := exists_find hk
  have hkeep : ((k, name) :: newer).filter (fun e => e.1 ≠ k') =
      (k, name) :: newer.filter fun e => e.1 ≠ k' :=
    List.filter_cons_of_pos (decide_eq_true hne)
  rw [use_of_find hfind]
  refine ⟨older.filter fun e => e.1 ≠ k', (newer.filter fun e => e.1 ≠ k') ++ [(k', v)], ?_, ?_⟩
  · rw [List.filter_append, hkeep, List.append_assoc]
    rfl
  · exact mem_keys_append (fun e he => hnewer e (List.mem_filter.1 he).1) v

/-- A new key pushes out only what is behind as many others as the cache keeps. -/
theorem Remembers.use_new (h : Remembers c k name later) (hnodup : (keys c).Nodup)
    (hk : k' ∉ keys c) (hfew : (later ++ [k']).toFinset.card < size) :
    Remembers (use size k' fresh c).2 k name (later ++ [k']) := by
  obtain ⟨older, newer, rfl, hnewer⟩ := h
  have hlater := @mem_keys_append k' later newer hnewer fresh
  have hnew : (keys (newer ++ [(k', fresh)])).Nodup := by
    rw [keys, List.map_append, List.map_cons] at hnodup hk
    rw [keys, List.map_append]
    refine List.nodup_append.2 ⟨(List.nodup_append.1 hnodup).2.1.of_cons,
      List.nodup_singleton k', ?_⟩
    rintro a ha b hb rfl
    rw [List.mem_singleton.1 hb] at ha
    exact hk (List.mem_append_right _ (List.mem_cons_of_mem _ ha))
  have hcount := length_le_card hnew hlater
  have hlength : (older ++ (k, name) :: newer ++ [(k', fresh)]).length - size ≤ older.length := by
    simp only [List.length_append, List.length_cons, List.length_nil] at hcount ⊢
    omega
  rw [use_of_notMem hk]
  refine ⟨older.drop ((older ++ (k, name) :: newer ++ [(k', fresh)]).length - size),
    newer ++ [(k', fresh)], ?_, hlater⟩
  rw [keepLast, List.append_assoc, List.drop_append_of_le_length (by rwa [← List.append_assoc])]
  rfl

/-- A key outlasts the use of another one as long as fewer keys than the cache keeps were used. -/
theorem Remembers.use_other (h : Remembers c k name later) (hnodup : (keys c).Nodup)
    (hne : k ≠ k') (hfew : (later ++ [k']).toFinset.card < size) :
    Remembers (use size k' fresh c).2 k name (later ++ [k']) := by
  by_cases hk : k' ∈ keys c
  · exact h.use_known hne hk
  · exact h.use_new hnodup hk hfew

end TableTalk.Log.NameCache

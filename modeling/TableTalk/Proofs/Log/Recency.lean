import TableTalk.Proofs.Log.Journal

/-!
# The cache holds the keys that were used last

Calls for files of tickets are made in any order, below any directories, while everything around the
cache changes at will. After each of them the cache holds the keys that were used last, as many as
it keeps and in the order of their last uses. Each has the path that every call for it was given
since it was last added. So a call gets its path from the cache exactly if its key was used before
and fewer others were used since than the cache keeps.
-/

namespace TableTalk.Log

open TableTalk.Action
open NameCache (keys use keepLast)

section Lists

variable {α : Type} {a : α} {l l' older newer : List α} {n : Nat}

theorem dedup_concat [DecidableEq α] (l : List α) (a : α) :
    (l ++ [a]).dedup = l.dedup.filter (· ≠ a) ++ [a] := by
  induction l with
  | nil => rfl
  | cons b l ih =>
    rw [List.cons_append]
    by_cases hb : b ∈ l
    · rw [List.dedup_cons_of_mem hb, List.dedup_cons_of_mem (List.mem_append_left _ hb), ih]
    · rw [List.dedup_cons_of_notMem hb]
      by_cases hba : b = a
      · rw [List.dedup_cons_of_mem (List.mem_append_right _ (List.mem_singleton.2 hba)), ih,
          List.filter_cons_of_neg (by simp [hba])]
      · have hnew : b ∉ l ++ [a] := by simp [hb, hba]
        rw [List.dedup_cons_of_notMem hnew, ih, List.filter_cons_of_pos (by simp [hba]),
          List.cons_append]

theorem length_filter_ne [DecidableEq α] (h : l.Nodup) (ha : a ∈ l) :
    (l.filter (· ≠ a)).length + 1 = l.length := by
  have herase : l.filter (· ≠ a) = l.erase a := by
    rw [h.erase_eq_filter]
    refine List.filter_congr fun b _ => ?_
    by_cases hb : b = a <;> simp [hb]
  rw [herase, List.length_erase_of_mem ha]
  exact Nat.sub_add_cancel (List.length_pos_of_mem ha)

theorem rtake_append_of_le (h : n ≤ l'.length) : (l ++ l').rtake n = l'.rtake n := by
  have hall : l.length ≤ (l ++ l').length - n := by
    rw [List.length_append]
    omega
  have hrest : (l ++ l').length - n - l.length = l'.length - n := by
    rw [List.length_append]
    omega
  rw [List.rtake, List.rtake, List.drop_append, List.drop_eq_nil_of_le hall, hrest,
    List.nil_append]

theorem mem_rtake_append (h : l'.length ≤ n) (ha : a ∈ l') : a ∈ (l ++ l').rtake n := by
  have hnone : (l ++ l').length - n - l.length = 0 := by
    rw [List.length_append]
    omega
  rw [List.rtake, List.drop_append, hnone]
  exact List.mem_append_right _ ha

/-- An element is among the last ones exactly if few enough stand behind it. -/
theorem mem_rtake_iff (h : (older ++ a :: newer).Nodup) :
    a ∈ (older ++ a :: newer).rtake n ↔ newer.length < n := by
  constructor
  · intro hmem
    by_contra hn
    rw [List.append_cons, rtake_append_of_le (Nat.not_lt.1 hn)] at hmem
    have hnew := (List.nodup_cons.1 (List.nodup_append.1 h).2.1).1
    exact hnew (List.mem_of_mem_drop hmem)
  · intro hn
    exact mem_rtake_append hn List.mem_cons_self

end Lists

variable {uses : List Key} {k k' : Key} {size : Nat}

def UsedSince (uses : List Key) (k k' : Key) : Prop :=
  ∃ before later, uses = before ++ k :: later ∧ k ∉ later ∧ k' ∈ later

/-- The key was used, and since its last use fewer others were used than `size`. -/
def IsRecent (size : Nat) (uses : List Key) (k : Key) : Prop :=
  ∃ before later, uses = before ++ k :: later ∧ k ∉ later ∧ later.toFinset.card < size

/-- These are the keys that were used last, `size` of them if there are as many, in the order of
their last uses. -/
structure AreLatest (size : Nat) (uses kept : List Key) : Prop where
  nodup : kept.Nodup
  length_eq : kept.length = min size uses.toFinset.card
  used : ∀ k ∈ kept, k ∈ uses
  ordered : kept.Pairwise (UsedSince uses)
  latest : ∀ k ∈ uses, k ∉ kept → ∀ k' ∈ kept, UsedSince uses k k'

def latest (size : Nat) (uses : List Key) : List Key :=
  uses.dedup.rtake size

theorem UsedSince.cons (h : UsedSince uses k k') (first : Key) :
    UsedSince (first :: uses) k k' := by
  obtain ⟨before, later, rfl, hk, hk'⟩ := h
  exact ⟨first :: before, later, rfl, hk, hk'⟩

theorem pairwise_dedup (uses : List Key) : uses.dedup.Pairwise (UsedSince uses) := by
  induction uses with
  | nil => exact List.Pairwise.nil
  | cons k uses ih =>
    have hrest : uses.dedup.Pairwise (UsedSince (k :: uses)) := ih.imp fun h => h.cons k
    by_cases hk : k ∈ uses
    · rw [List.dedup_cons_of_mem hk]
      exact hrest
    · rw [List.dedup_cons_of_notMem hk]
      refine List.pairwise_cons.2 ⟨fun k' hk' => ?_, hrest⟩
      exact ⟨[], uses, rfl, hk, List.mem_dedup.1 hk'⟩

theorem exists_dedup_eq_append (size : Nat) (uses : List Key) :
    ∃ old, uses.dedup = old ++ latest size uses ∧ old.length = uses.dedup.length - size := by
  refine ⟨uses.dedup.take (uses.dedup.length - size), (List.take_append_drop _ _).symm, ?_⟩
  rw [List.length_take]
  omega

theorem areLatest_latest (size : Nat) (uses : List Key) :
    AreLatest size uses (latest size uses) := by
  obtain ⟨old, hdedup, hold⟩ := exists_dedup_eq_append size uses
  have hsub : (latest size uses).Sublist uses.dedup := hdedup ▸ List.sublist_append_right _ _
  have hordered := pairwise_dedup uses
  rw [hdedup] at hordered
  obtain ⟨-, hkept, hacross⟩ := List.pairwise_append.1 hordered
  refine ⟨hsub.nodup uses.nodup_dedup, ?_, fun k hk => List.mem_dedup.1 (hsub.subset hk), hkept, ?_⟩
  · have hlength := congrArg List.length hdedup
    rw [List.length_append] at hlength
    rw [List.card_toFinset]
    omega
  · intro k hk hgone k' hk'
    have hmem : k ∈ old ++ latest size uses := hdedup ▸ List.mem_dedup.2 hk
    exact hacross k ((List.mem_append.1 hmem).resolve_right hgone) k' hk'

theorem exists_dedup_eq (before : List Key) {later : List Key} (hk : k ∉ later) :
    ∃ older, (before ++ k :: later).dedup = older ++ k :: later.dedup := by
  obtain ⟨older, -, hunion⟩ := List.sublist_suffix_of_union before (k :: later.dedup)
  refine ⟨older, ?_⟩
  rw [List.dedup_append, List.dedup_cons_of_notMem hk, hunion]

theorem mem_latest_iff : k ∈ latest size uses ↔ IsRecent size uses k := by
  have hlast {before later : List Key} (huses : uses = before ++ k :: later) (hk : k ∉ later) :
      k ∈ latest size uses ↔ later.toFinset.card < size := by
    obtain ⟨older, hdedup⟩ := exists_dedup_eq before hk
    have hnodup := uses.nodup_dedup
    rw [latest, List.card_toFinset, huses, hdedup]
    rw [huses, hdedup] at hnodup
    exact mem_rtake_iff hnodup
  -- The keys are put at their last uses, so those behind a key are the ones used since.
  constructor
  · intro hmem
    obtain ⟨before, later, huses, hk⟩ := exists_last ((areLatest_latest size uses).used k hmem)
    exact ⟨before, later, huses, hk, (hlast huses hk).1 hmem⟩
  · rintro ⟨before, later, huses, hk, hfew⟩
    exact (hlast huses hk).2 hfew

/-- A key among the latest goes to their end when it is used again. -/
theorem latest_concat_of_mem (h : k ∈ latest size uses) :
    latest size (uses ++ [k]) = (latest size uses).filter (· ≠ k) ++ [k] := by
  obtain ⟨old, hdedup, hold⟩ := exists_dedup_eq_append size uses
  have hlength := congrArg List.length hdedup
  have hnodup := uses.nodup_dedup
  rw [hdedup] at hnodup
  obtain ⟨-, hkept, hacross⟩ := List.nodup_append.1 hnodup
  have hfilter : old.filter (· ≠ k) = old := by
    rw [List.filter_eq_self]
    exact fun k' hk' => decide_eq_true (hacross k' hk' k h)
  have hcount := length_filter_ne hkept h
  have hdrop : (old ++ ((latest size uses).filter (· ≠ k) ++ [k])).length - size =
      old.length := by
    simp only [List.length_append, List.length_singleton] at hlength ⊢
    omega
  rw [latest, dedup_concat, hdedup, List.filter_append, hfilter, List.append_assoc, List.rtake,
    hdrop, List.drop_left]

/-- Another key goes to the end, and the first of the latest may go for it. -/
theorem latest_concat_of_notMem (h : k ∉ latest size uses) :
    latest size (uses ++ [k]) = (latest size uses ++ [k]).rtake size := by
  obtain ⟨old, hdedup, hold⟩ := exists_dedup_eq_append size uses
  have hlength := congrArg List.length hdedup
  have hfilter : (latest size uses).filter (· ≠ k) = latest size uses := by
    rw [List.filter_eq_self]
    exact fun k' hk' => decide_eq_true fun heq => h (heq ▸ hk')
  rw [latest, dedup_concat, hdedup, List.filter_append, hfilter, List.append_assoc]
  by_cases hall : old = []
  · rw [hall]
    rfl
  · have hpos := List.length_pos_of_ne_nil hall
    rw [List.length_append] at hlength
    refine rtake_append_of_le ?_
    rw [List.length_append]
    omega

/-- A use of a key does to the cache what it does to the keys that were used last. -/
theorem keys_use_of_latest {c : NameCache} {fresh : String} (h : keys c = latest size uses) :
    keys (use size k fresh c).2 = latest size (uses ++ [k]) := by
  by_cases hk : k ∈ keys c
  · obtain ⟨v, hfind⟩ := NameCache.exists_find hk
    have hfilter : keys (c.filter fun e => e.1 ≠ k) = (keys c).filter (· ≠ k) := by
      rw [keys, keys, List.filter_map]
      rfl
    have hkeys : keys ((c.filter fun e => e.1 ≠ k) ++ [(k, v)]) =
        (keys c).filter (· ≠ k) ++ [k] := by
      rw [← hfilter]
      exact List.map_append
    rw [NameCache.use_of_find hfind, hkeys, h, ← latest_concat_of_mem (h ▸ hk)]
  · -- Dropping the oldest entries of the cache drops the oldest keys.
    have hkeys : keys (keepLast size (c ++ [(k, fresh)])) = (keys c ++ [k]).rtake size := by
      simp [keys, keepLast, List.rtake, List.map_drop]
    rw [NameCache.use_of_notMem hk, hkeys, h, ← latest_concat_of_notMem (h ▸ hk)]

theorem isPlain_of_isExpansion {p path : Path} (h : p.IsPlain)
    (hexpansion : World.IsExpansion p path) : path.IsPlain := by
  rcases hexpansion with rfl | ⟨home, rest, hrest, rfl⟩
  · exact h
  · have hhome := Path.isPlain_parse home
    refine ⟨hhome.root, fun name hname => ?_⟩
    rcases List.mem_append.1 hname with hname | hname
    · exact hhome.names name hname
    · exact h.names name (hrest hname)

/-- A call for the file of a ticket: what it is made with, and the world around the cache. -/
structure Lookup where
  world : World
  base : Path
  ticket : String
  stamp : Option String

namespace Lookup

def within (l : Lookup) (size : Nat) (names : NameCache) : World :=
  { l.world with logNames := names, logNamesKept := size }

def key? (l : Lookup) : Option Key :=
  match (World.expandHome l.base l.world).1 with
  | .ok expanded => some (keyOf (Path.resolve l.world.cwd expanded) l.ticket)
  | .error _ => none

def freshName (l : Lookup) : String :=
  fileName l.world.now l.stamp l.ticket

structure IsProper (l : Lookup) : Prop where
  base : ∃ text, Path.parse text = l.base
  cwd : ∃ text, Path.parse text = l.world.cwd

end Lookup

/-- A call that was made: the names remembered before it, its answer, and the names after it. -/
structure Turn where
  lookup : Lookup
  before : NameCache
  answer : Except Failure Path
  after : NameCache

def Lookup.turn (l : Lookup) (size : Nat) (names : NameCache) : Turn :=
  let r := (⟨l.base⟩ : Journal).fileOf l.ticket l.stamp (l.within size names)
  ⟨l, names, r.1, r.2.logNames⟩

def pathOf (e : Key × String) : Path :=
  Files.child (Path.parse e.1.base) e.2

namespace Turn

variable {t : Turn} {names : NameCache} {fresh : String}

def used? (t : Turn) : Option Key :=
  match t.answer with
  | .ok _ => t.lookup.key?
  | .error _ => none

def Adds (t : Turn) (k : Key) : Prop :=
  t.used? = some k ∧ k ∉ keys t.before

def IsCached (t : Turn) : Prop :=
  ∃ e ∈ t.before, t.lookup.key? = some e.1 ∧ t.answer = .ok (pathOf e)

structure IsFailure (t : Turn) : Prop where
  exists_error : ∃ f, t.answer = .error f
  unknown : ∀ k, t.lookup.key? = some k → k ∉ keys t.before
  after_eq : t.after = t.before

structure IsUse (size : Nat) (k : Key) (fresh : String) (t : Turn) : Prop where
  key_eq : t.lookup.key? = some k
  answer_eq : t.answer = .ok (pathOf (k, (use size k fresh t.before).1))
  after_eq : t.after = (use size k fresh t.before).2

theorem IsFailure.used_eq (h : t.IsFailure) : t.used? = none := by
  obtain ⟨f, hf⟩ := h.exists_error
  rw [used?, hf]

theorem IsUse.used_eq (h : t.IsUse size k fresh) : t.used? = some k := by
  rw [used?, h.answer_eq]
  exact h.key_eq

theorem IsUse.adds_iff (h : t.IsUse size k fresh) : t.Adds k' ↔ k' = k ∧ k ∉ keys t.before := by
  rw [Adds, h.used_eq, Option.some_inj]
  constructor
  · rintro ⟨rfl, hnew⟩
    exact ⟨rfl, hnew⟩
  · rintro ⟨rfl, hnew⟩
    exact ⟨rfl, hnew⟩

theorem IsUse.exists_known (h : t.IsUse size k fresh) (hk : k ∈ keys t.before) :
    ∃ name, (k, name) ∈ t.before ∧ t.answer = .ok (pathOf (k, name)) ∧
      t.after = (t.before.filter fun e => e.1 ≠ k) ++ [(k, name)] := by
  obtain ⟨name, hfind⟩ := NameCache.exists_find hk
  have huse : use size k fresh t.before = _ := NameCache.use_of_find hfind
  refine ⟨name, List.mem_of_find?_eq_some hfind, ?_, ?_⟩
  · rw [h.answer_eq, huse]
  · rw [h.after_eq, huse]

end Turn

theorem Lookup.IsProper.turn_cases {l : Lookup} (h : l.IsProper) (size : Nat) (names : NameCache) :
    (l.turn size names).IsFailure ∨ ∃ k, (l.turn size names).IsUse size k l.freshName := by
  rcases World.expandHome_cases l.base l.world.environment l.world.homes with
    hunknown | ⟨expanded, hexpansion, hexpand⟩
  · have hkey : l.key? = none := by rw [key?, hunknown l.world rfl rfl]
    have hrun : (⟨l.base⟩ : Journal).fileOf l.ticket l.stamp (l.within size names) =
        (.error .unknownHome, l.within size names) := bind_of_error (hunknown _ rfl rfl)
    rw [turn, hrun]
    refine Or.inl ⟨⟨_, rfl⟩, fun k hk => ?_, rfl⟩
    cases hkey.symm.trans hk
  · let base := Path.resolve l.world.cwd expanded
    have hplain : base.IsPlain := by
      obtain ⟨⟨baseText, hbaseText⟩, cwdText, hcwdText⟩ := h
      have hcwd : l.world.cwd.IsPlain := hcwdText ▸ Path.isPlain_parse cwdText
      have hbase : l.base.IsPlain := hbaseText ▸ Path.isPlain_parse baseText
      exact hcwd.resolve (isPlain_of_isExpansion hbase hexpansion)
    have hpath (name : String) : Files.child base name = pathOf (keyOf base l.ticket, name) :=
      congrArg (Files.child · name) (Path.parse_text hplain).symm
    have hkey : l.key? = some (keyOf base l.ticket) := by rw [key?, hexpand l.world rfl rfl]
    have hresolve : Path.resolve (l.within size names).cwd expanded = base := rfl
    have hrun := Journal.fileOf_eq (j := ⟨l.base⟩) (hexpand (l.within size names) rfl rfl)
      hresolve l.ticket l.stamp
    rw [turn, hrun]
    by_cases hk : keyOf base l.ticket ∈ keys (l.within size names).logNames
    · rw [if_pos hk]
      exact Or.inr ⟨_, hkey, congrArg Except.ok (hpath _), rfl⟩
    · rw [if_neg hk]
      cases (l.within size names).files.makeDirectories (l.within size names).cwd base with
      | ok files => exact Or.inr ⟨_, hkey, congrArg Except.ok (hpath _), rfl⟩
      | error fault =>
        refine Or.inl ⟨⟨_, rfl⟩, fun k hk' => ?_, rfl⟩
        exact Option.some.inj (hkey.symm.trans hk') ▸ hk

def keysUsed (turns : List Turn) : List Key :=
  turns.filterMap Turn.used?

/-- Since the key of the entry was last added, every call for it was answered with the path of the
entry. -/
def HeldSince (turns : List Turn) (e : Key × String) : Prop :=
  ∃ earlier t later, turns = earlier ++ t :: later ∧ t.Adds e.1 ∧ (∀ u ∈ later, ¬ u.Adds e.1) ∧
    ∀ u ∈ t :: later, u.lookup.key? = some e.1 → u.answer = .ok (pathOf e)

structure History where
  turns : List Turn
  names : NameCache

def History.next (size : Nat) (h : History) (l : Lookup) : History :=
  let t := l.turn size h.names
  ⟨h.turns ++ [t], t.after⟩

def history (size : Nat) (calls : List Lookup) : History :=
  calls.foldl (History.next size) ⟨[], []⟩

variable {turns : List Turn} {t : Turn} {e : Key × String} {l : Lookup} {h : History}

theorem HeldSince.concat (hheld : HeldSince turns e) (hadds : ¬ t.Adds e.1)
    (hanswer : t.lookup.key? = some e.1 → t.answer = .ok (pathOf e)) :
    HeldSince (turns ++ [t]) e := by
  obtain ⟨earlier, first, later, rfl, hfirst, hlater, hanswers⟩ := hheld
  refine ⟨earlier, first, later ++ [t], by rw [List.append_assoc, List.cons_append], hfirst, ?_, ?_⟩
  · intro u hu
    rcases List.mem_append.1 hu with hu | hu
    · exact hlater u hu
    · exact List.mem_singleton.1 hu ▸ hadds
  · intro u hu
    rw [← List.cons_append] at hu
    rcases List.mem_append.1 hu with hu | hu
    · exact hanswers u hu
    · exact List.mem_singleton.1 hu ▸ hanswer

theorem HeldSince.of_adds (hadds : t.Adds e.1) (hanswer : t.answer = .ok (pathOf e)) :
    HeldSince (turns ++ [t]) e := by
  refine ⟨turns, t, [], rfl, hadds, fun u hu => absurd hu List.not_mem_nil, fun u hu _ => ?_⟩
  exact List.mem_singleton.1 hu ▸ hanswer

/-- An entry that is there after the use of a key was there before, or the use added it. -/
theorem heldSince_of_isUse (hheld : ∀ e ∈ t.before, HeldSince turns e) {fresh : String}
    (huse : t.IsUse size k fresh) (he : e ∈ t.after) : HeldSince (turns ++ [t]) e := by
  -- A known key only moves its entry to the end; a new one adds its entry and may push one out.
  by_cases hk : k ∈ keys t.before
  · have hadds : ¬ t.Adds e.1 := fun hadds => (huse.adds_iff.1 hadds).2 hk
    obtain ⟨name, hname, hanswer, hafter⟩ := huse.exists_known hk
    rw [hafter] at he
    rcases List.mem_append.1 he with he | he
    · obtain ⟨he, hne⟩ := List.mem_filter.1 he
      refine (hheld e he).concat hadds fun hkey => ?_
      exact absurd (Option.some.inj (hkey.symm.trans huse.key_eq)) (of_decide_eq_true hne)
    · obtain rfl := List.mem_singleton.1 he
      exact (hheld _ hname).concat hadds fun _ => hanswer
  · have huses := huse.answer_eq
    rw [huse.after_eq, NameCache.use_of_notMem hk] at he
    rw [NameCache.use_of_notMem hk] at huses
    rcases List.mem_append.1 (List.mem_of_mem_drop he) with he | he
    · have hne : e.1 ≠ k := fun heq => hk (heq ▸ List.mem_map_of_mem he)
      refine (hheld e he).concat (fun hadds => hne (huse.adds_iff.1 hadds).1) fun hkey => ?_
      exact absurd (Option.some.inj (hkey.symm.trans huse.key_eq)) hne
    · obtain rfl := List.mem_singleton.1 he
      exact .of_adds (huse.adds_iff.2 ⟨rfl, hk⟩) huses

theorem keysUsed_concat (turns : List Turn) (t : Turn) :
    keysUsed (turns ++ [t]) = keysUsed turns ++ t.used?.toList := by
  rw [keysUsed, List.filterMap_append]
  cases hused : t.used? <;> simp [keysUsed, hused]

/-- What every call keeps: the cache has the keys that were used last, and has held each entry since
its key was added. -/
structure History.IsSound (size : Nat) (h : History) : Prop where
  keys_eq : keys h.names = latest size (keysUsed h.turns)
  held : ∀ e ∈ h.names, HeldSince h.turns e

theorem History.IsSound.next (hsound : h.IsSound size) (hl : l.IsProper) :
    (h.next size l).IsSound size := by
  rcases hl.turn_cases size h.names with hfailure | ⟨k, huse⟩
  · refine ⟨?_, fun e he => ?_⟩
    · rw [History.next, keysUsed_concat, hfailure.used_eq, hfailure.after_eq]
      exact hsound.keys_eq.trans (congrArg (latest size) (List.append_nil _).symm)
    · rw [History.next, hfailure.after_eq] at he
      have hunknown : l.key? ≠ some e.1 := fun hkey =>
        hfailure.unknown e.1 hkey (List.mem_map_of_mem he)
      refine (hsound.held e he).concat ?_ fun hkey => absurd hkey hunknown
      rintro ⟨hused, -⟩
      cases hfailure.used_eq.symm.trans hused
  · refine ⟨?_, fun e he => heldSince_of_isUse hsound.held huse he⟩
    rw [History.next, keysUsed_concat, huse.used_eq, huse.after_eq]
    exact keys_use_of_latest hsound.keys_eq

theorem isSound_history {calls : List Lookup} (hcalls : ∀ l ∈ calls, l.IsProper) :
    (history size calls).IsSound size := by
  induction calls using List.reverseRecOn with
  | nil => exact ⟨(List.rtake_nil size).symm, fun e he => absurd he List.not_mem_nil⟩
  | append_singleton calls l ih =>
    rw [history, List.foldl_append]
    exact (ih fun l hl => hcalls l (List.mem_append_left _ hl)).next
      (hcalls l (List.mem_append_right _ List.mem_cons_self))

theorem isCached_turn_iff (hsound : h.IsSound size) (hl : l.IsProper) :
    (l.turn size h.names).IsCached ↔
      ∃ k, l.key? = some k ∧ IsRecent size (keysUsed h.turns) k := by
  have hrecent (k : Key) : k ∈ keys h.names ↔ IsRecent size (keysUsed h.turns) k := by
    rw [hsound.keys_eq, mem_latest_iff]
  constructor
  · rintro ⟨e, he, hkey, -⟩
    exact ⟨e.1, hkey, (hrecent e.1).1 (List.mem_map_of_mem he)⟩
  · rintro ⟨k, hkey, hk⟩
    have hknown := (hrecent k).2 hk
    rcases hl.turn_cases size h.names with hfailure | ⟨k', huse⟩
    · exact absurd hknown (hfailure.unknown k hkey)
    · obtain rfl : k = k' := Option.some.inj (hkey.symm.trans huse.key_eq)
      obtain ⟨name, hname, hanswer, -⟩ := huse.exists_known hknown
      exact ⟨(k, name), hname, hkey, hanswer⟩

/-- After any calls, of which some may fail and between which anything else may change, the cache
has the keys that were used last, as many as it keeps (`NameCache.capacity` unless told otherwise),
in the order of their last uses. For each of them it has the path with which every call for it was
answered since it was last added. So the next call is answered with a path from the cache exactly if
its key was used before and fewer others were used since than the cache keeps. -/
theorem areLatest_history (size : Nat) {calls : List Lookup} (hcalls : ∀ l ∈ calls, l.IsProper) :
    AreLatest size (keysUsed (history size calls).turns) (keys (history size calls).names) ∧
      (∀ e ∈ (history size calls).names, HeldSince (history size calls).turns e) ∧
      ∀ l : Lookup, l.IsProper → ((l.turn size (history size calls).names).IsCached ↔
        ∃ k, l.key? = some k ∧ IsRecent size (keysUsed (history size calls).turns) k) := by
  have hsound : (history size calls).IsSound size := isSound_history hcalls
  refine ⟨?_, hsound.held, fun l hl => isCached_turn_iff hsound hl⟩
  rw [hsound.keys_eq]
  exact areLatest_latest size _

def lookupAt (second : Nat) (directory ticket : String) : Lookup :=
  ⟨{ World.bare with now := ⟨⟨2024, 1, 1⟩, 9, 0, second, 0, none⟩ }, Path.parse directory, ticket,
    none⟩

theorem isProper_lookupAt (second : Nat) (directory ticket : String) :
    (lookupAt second directory ticket).IsProper := by
  have hcwd : Path.parse "/" = World.bare.cwd := by decide
  exact ⟨⟨directory, rfl⟩, "/", hcwd⟩

def logsLookups : List Lookup :=
  [lookupAt 0 "logs" "a", lookupAt 1 "logs" "b", lookupAt 2 "/logs/x/.." "a",
    lookupAt 3 "~nobody" "b", lookupAt 4 "logs" "c"]

/-- Where two names are kept, the third ticket pushes out the second. The first keeps the name that
it got by the first call. -/
theorem areLatest_history_logs :
    (history 2 logsLookups).names = [(⟨"/logs", "a"⟩, "20240101T090000000-a.jsonl"),
        (⟨"/logs", "c"⟩, "20240101T090004000-c.jsonl")] ∧
      ((lookupAt 5 "logs" "a").turn 2 (history 2 logsLookups).names).IsCached ∧
      ¬ ((lookupAt 5 "logs" "b").turn 2 (history 2 logsLookups).names).IsCached := by
  have hcalls : ∀ l ∈ logsLookups, l.IsProper := by
    simp only [logsLookups, List.forall_mem_cons, isProper_lookupAt, List.not_mem_nil,
      false_implies, implies_true, and_true]
  obtain ⟨-, -, hcached⟩ := areLatest_history 2 hcalls
  have hused : keysUsed (history 2 logsLookups).turns =
      [⟨"/logs", "a"⟩, ⟨"/logs", "b"⟩, ⟨"/logs", "a"⟩, ⟨"/logs", "c"⟩] := by rfl
  rw [hused] at hcached
  refine ⟨by decide, ?_, ?_⟩
  · rw [hcached _ (isProper_lookupAt 5 "logs" "a")]
    exact ⟨⟨"/logs", "a"⟩, by rfl, mem_latest_iff.1 (by decide)⟩
  · rw [hcached _ (isProper_lookupAt 5 "logs" "b")]
    rintro ⟨k, hkey, hrecent⟩
    obtain rfl : (⟨"/logs", "b"⟩ : Key) = k := Option.some.inj hkey
    exact absurd (mem_latest_iff.2 hrecent) (by decide)

end TableTalk.Log

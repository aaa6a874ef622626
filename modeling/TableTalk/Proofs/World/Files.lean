import Mathlib
import TableTalk.Proofs.Text.Search
import TableTalk.World.Files

/-!
# Paths, and files in a directory

A path that was read from a text is read back from its own text, also when it was resolved since.

Where all directories on the way are there, a name in a directory is found, read and written in its
place, and nothing else changes.
-/

namespace TableTalk.Path

open Text

variable {p cwd : Path} {name : String} {names : List String}

def IsPart (name : String) : Prop :=
  name ≠ "" ∧ name ≠ "." ∧ '/' ∉ name.toList

structure IsPlain (p : Path) : Prop where
  root : p.root = "" ∨ p.root = "/" ∨ p.root = "//"
  names : ∀ name ∈ p.names, IsPart name

theorem rootOf_cases (cs : List Char) : rootOf cs = "" ∨ rootOf cs = "/" ∨ rootOf cs = "//" := by
  unfold rootOf
  split <;> simp

theorem isPlain_parse (s : String) : (parse s).IsPlain where
  root := rootOf_cases s.toList
  names := by
    intro name hname
    obtain ⟨piece, hpiece, rfl⟩ := List.mem_map.1 hname
    obtain ⟨hmem, hkept⟩ := List.mem_filter.1 hpiece
    obtain ⟨hempty, hdot⟩ : piece ≠ [] ∧ piece ≠ ['.'] := of_decide_eq_true hkept
    refine ⟨fun h => hempty (String.ofList_inj.1 h), fun h => hdot (String.ofList_inj.1 h), ?_⟩
    rw [String.toList_ofList]
    exact notMem_of_mem_splitOn hmem

def joined (names : List String) : List Char :=
  ['/'].intercalate (names.map String.toList)

theorem head?_joined (h : ∀ name ∈ names, IsPart name) : (joined names).head? ≠ some '/' := by
  cases names with
  | nil => simp [joined]
  | cons name rest =>
    obtain ⟨hempty, -, hslash⟩ := h name List.mem_cons_self
    obtain ⟨c, cs, hname⟩ := List.exists_cons_of_ne_nil (mt String.toList_eq_nil_iff.1 hempty)
    have hc : c ≠ '/' := fun hc => hslash (by rw [hname, hc]; exact List.mem_cons_self)
    cases rest with
    | nil => simpa [joined, hname] using hc
    | cons next rest =>
      rw [joined, List.map_cons, List.map_cons, List.intercalate_cons_cons, hname]
      simpa using hc

theorem rootOf_append (h : p.IsPlain) : rootOf (p.root.toList ++ joined p.names) = p.root := by
  have hhead := head?_joined h.names
  cases hjoined : joined p.names with
  | nil => rcases h.root with hroot | hroot | hroot <;> rw [hroot] <;> rfl
  | cons c cs =>
    have hc : c ≠ '/' := fun hc => hhead (by rw [hjoined, hc]; rfl)
    rcases h.root with hroot | hroot | hroot
    all_goals
      rw [hroot]
      simp [rootOf, hc]

/-- The slashes of a root give only empty pieces. -/
theorem filter_splitOn_root (h : p.IsPlain) (cs : List Char) {keep : List Char → Bool}
    (hkeep : keep [] = false) :
    (splitOn '/' (p.root.toList ++ cs)).filter keep = (splitOn '/' cs).filter keep := by
  rcases h.root with hroot | hroot | hroot
  all_goals
    rw [hroot]
    simp [splitOn, hkeep]

theorem filter_splitOn_joined (h : ∀ name ∈ names, IsPart name) :
    ((splitOn '/' (joined names)).filter fun n => n ≠ [] ∧ n ≠ ['.']) =
      names.map String.toList := by
  by_cases hnames : names = []
  · rw [hnames]
    rfl
  · have hslash : ∀ piece ∈ names.map String.toList, '/' ∉ piece := by
      rw [List.forall_mem_map]
      exact fun name hname => (h name hname).2.2
    rw [joined, splitOn_eq, List.splitOn_intercalate _ hslash (by simpa using hnames),
      List.filter_eq_self, List.forall_mem_map]
    intro name hname
    obtain ⟨hempty, hdot, -⟩ := h name hname
    refine decide_eq_true ⟨mt String.toList_eq_nil_iff.1 hempty, fun heq => hdot ?_⟩
    exact String.toList_inj.1 heq

/-- Reading undoes writing. -/
theorem parse_text (h : p.IsPlain) : parse p.text = p := by
  by_cases hhere : p.root = "" ∧ p.names = []
  · obtain ⟨hroot, hnames⟩ := hhere
    rw [text, if_pos ⟨hroot, hnames⟩]
    calc parse "." = ⟨"", []⟩ := by decide
      _ = p := by rw [← hroot, ← hnames]
  · have hchars : p.text.toList = p.root.toList ++ joined p.names := by
      rw [text, if_neg hhere, String.toList_append, join, String.toList_intercalate]
      rfl
    have hnames := filter_splitOn_joined h.names
    rw [← filter_splitOn_root h _ (by simp)] at hnames
    rw [parse, hchars, rootOf_append h, hnames, List.map_map]
    simp [Function.comp_def]

theorem collapse_subset (names : List String) : collapse names ⊆ names := by
  refine List.foldlRecOn (motive := fun done => done ⊆ names) names _ (List.nil_subset _)
    fun done hdone name hname => ?_
  split
  · exact List.Subset.trans (List.dropLast_subset done) hdone
  · exact List.append_subset.2 ⟨hdone, List.cons_subset.2 ⟨hname, List.nil_subset _⟩⟩

theorem collapse_eq_self {names : List String} (h : ∀ name ∈ names, name ≠ "..") :
    collapse names = names := by
  have hfold (done : List String) :
      names.foldl (fun done n => if n = ".." then done.dropLast else done ++ [n]) done =
        done ++ names := by
    induction names generalizing done with
    | nil => exact (List.append_nil done).symm
    | cons name names ih =>
      obtain ⟨hname, hnames⟩ := List.forall_mem_cons.1 h
      rw [List.foldl_cons, if_neg hname, ih hnames, List.append_assoc]
      rfl
  exact hfold []

theorem resolve_eq_self {cwd p : Path} (hroot : p.root = "/") (h : ∀ name ∈ p.names, name ≠ "..") :
    resolve cwd p = p := by
  have habsolute : p.isAbsolute = true := decide_eq_true (hroot ▸ by decide)
  rw [resolve, append, if_pos habsolute, collapse_eq_self h, ← hroot]

theorem IsPlain.resolve (hcwd : cwd.IsPlain) (h : p.IsPlain) : (resolve cwd p).IsPlain where
  root := Or.inr (Or.inl rfl)
  names := by
    intro name hname
    have hmem := collapse_subset _ hname
    rw [append] at hmem
    split at hmem
    · exact h.names name hmem
    · rcases List.mem_append.1 hmem with hmem | hmem
      · exact hcwd.names name hmem
      · exact h.names name hmem

end TableTalk.Path

namespace TableTalk.Files

variable {t : Files} {here names more place : List String} {name : String} {base cwd : Path}

theorem lookup_map_put (entries : List (List String × Entry)) (place q : List String) (e : Entry) :
    (entries.map fun (p, old) => if p = place then (p, e) else (p, old)).lookup q =
      if q = place then (entries.lookup q).map fun _ => e else entries.lookup q := by
  induction entries with
  | nil => simp
  | cons entry entries ih =>
    obtain ⟨p, old⟩ := entry
    rw [List.map_cons]
    by_cases hp : p = place
    · subst hp
      by_cases hq : q = p
      · simp [hq]
      · have hne : (q == p) = false := beq_eq_false_iff_ne.2 hq
        simp only [if_true, List.lookup_cons, hne, ih, if_neg hq]
    · dsimp only
      rw [if_neg hp]
      by_cases hq : q = p
      · subst hq
        simp [hp]
      · have hne : (q == p) = false := beq_eq_false_iff_ne.2 hq
        simp only [List.lookup_cons, hne, ih]

theorem entry?_put (t : Files) (hplace : place ≠ []) (e : Entry) (q : List String) :
    entry? (t.put place e) q = if q = place then some e else t.entry? q := by
  by_cases hroot : q = []
  · subst hroot
    rw [if_neg hplace.symm]
    rfl
  rw [ entry?, entry?, if_neg hroot, if_neg hroot, put]
  by_cases hold : (t.entries.lookup place).isSome
  · rw [if_pos hold]
    dsimp only
    rw [lookup_map_put]
    by_cases hq : q = place
    · obtain ⟨old, hold⟩ := Option.isSome_iff_exists.1 hold
      rw [if_pos hq, if_pos hq, hq, hold]
      rfl
    · rw [if_neg hq, if_neg hq]
  · rw [if_neg hold]
    dsimp only
    have hnone : t.entries.lookup place = none := Option.not_isSome_iff_eq_none.1 hold
    rw [List.lookup_append]
    by_cases hq : q = place
    · rw [if_pos hq, hq, hnone]
      simp
    · have hne : (q == place) = false := beq_eq_false_iff_ne.2 hq
      rw [if_neg hq, List.lookup_cons, hne]
      simp

/-- All directories along names are there, and the names lead downwards. -/
structure Leads (t : Files) (here names : List String) : Prop where
  downwards : ∀ name ∈ names, name ≠ ".." ∧ name.utf8ByteSize ≤ nameLimit
  there : ∀ n, t.entry? (here ++ names.take n) = some .directory

theorem Leads.of_cons (h : t.Leads here (name :: names)) :
    name ≠ ".." ∧ name.utf8ByteSize ≤ nameLimit ∧ t.entry? (here ++ [name]) = some .directory ∧
      t.Leads (here ++ [name]) names := by
  obtain ⟨hdots, hsize⟩ := h.downwards name List.mem_cons_self
  refine ⟨hdots, hsize, h.there 1,
    fun name hname => h.downwards name (List.mem_cons_of_mem _ hname), ?_⟩
  intro n
  rw [List.append_assoc]
  exact h.there (n + 1)

theorem Leads.walk_append (h : t.Leads here names) (more : List String) :
    t.walk here (names ++ more) = t.walk (here ++ names) more := by
  induction names generalizing here with
  | nil => rw [List.nil_append, List.append_nil]
  | cons name names ih =>
    obtain ⟨hdots, hsize, hnext, hrest⟩ := h.of_cons
    rw [List.cons_append, walk, if_neg hdots, if_neg (Nat.not_lt.2 hsize)]
    dsimp only
    rw [hnext]
    dsimp only
    rw [ih hrest, List.append_assoc]
    rfl

theorem Leads.makeAlong (h : t.Leads here names) : t.makeAlong here names = .ok t := by
  induction names generalizing here with
  | nil => rfl
  | cons name names ih =>
    obtain ⟨hdots, hsize, hnext, hrest⟩ := h.of_cons
    rw [Files.makeAlong, if_neg hdots, if_neg (Nat.not_lt.2 hsize)]
    dsimp only
    rw [hnext]
    exact ih hrest

theorem walk_last (hdots : name ≠ "..") (hsize : name.utf8ByteSize ≤ nameLimit) :
    t.walk here [name] = .ok (here ++ [name]) := by
  rw [walk, if_neg hdots, if_neg (Nat.not_lt.2 hsize)]
  dsimp only
  cases t.entry? (here ++ [name]) with
  | none => rfl
  | some e => cases e <;> rfl

/-- A path without double dots to a directory. -/
structure HasDirectory (t : Files) (base : Path) : Prop where
  absolute : base.isAbsolute = true
  leads : t.Leads [] base.names

def child (base : Path) (name : String) : Path :=
  ⟨base.root, base.names ++ [name]⟩

/-- The text of a path to a name in a directory goes on behind that of the directory. -/
theorem exists_text_child (h : base.isAbsolute = true) (name : String) :
    ∃ sep, (sep = "" ∨ sep = "/") ∧ (child base name).text = base.text ++ sep ++ name := by
  have hroot : base.root ≠ "" := of_decide_eq_true h
  have hbase : base.text = base.root ++ Text.join "/" base.names :=
    if_neg fun hempty => hroot hempty.1
  have hchild : (child base name).text = base.root ++ Text.join "/" (base.names ++ [name]) :=
    if_neg fun hempty => hroot hempty.1
  rw [hchild, hbase, Text.join, Text.join]
  by_cases hnames : base.names = []
  · refine ⟨"", Or.inl rfl, ?_⟩
    rw [hnames, List.nil_append, String.intercalate_singleton, String.intercalate_nil,
      String.append_empty, String.append_empty]
  · refine ⟨"/", Or.inr rfl, ?_⟩
    rw [String.intercalate_append_of_ne_nil hnames (List.cons_ne_nil _ _),
      String.intercalate_singleton]
    simp only [String.append_assoc]

theorem update_of_far {p : Path} (h : pathLimit < p.text.utf8ByteSize) (cwd : Path)
    (change : List UInt8 → List UInt8) : t.update cwd p change = .error .nameTooLong := by
  rw [update, locate, if_pos h]
  rfl

structure Fits (base : Path) (name : String) : Prop where
  ne_dots : name ≠ ".."
  name_size : name.utf8ByteSize ≤ nameLimit
  path_size : (child base name).text.utf8ByteSize ≤ pathLimit

namespace HasDirectory

theorem makeDirectories (h : t.HasDirectory base) (hsize : base.text.utf8ByteSize ≤ pathLimit)
    (cwd : Path) : t.makeDirectories cwd base = .ok t := by
  rw [Files.makeDirectories, if_neg (Nat.not_lt.2 hsize), if_pos h.absolute]
  exact h.leads.makeAlong

theorem locate_child (h : t.HasDirectory base) (hfits : Fits base name) (cwd : Path) :
    t.locate cwd (child base name) = .ok (base.names ++ [name]) := by
  have habsolute : (child base name).isAbsolute = true := h.absolute
  rw [locate, if_neg (Nat.not_lt.2 hfits.path_size), if_pos habsolute]
  exact (h.leads.walk_append [name]).trans (walk_last hfits.ne_dots hfits.name_size)

theorem exists?_child (h : t.HasDirectory base) (hfits : Fits base name)
    (hnul : '\x00' ∉ (child base name).text.toList) (cwd : Path) :
    t.exists? cwd (child base name) = .ok ( t.entry? (base.names ++ [name])).isSome := by
  have hcontains : (child base name).text.toList.contains '\x00' = false := by
    rw [← Bool.not_eq_true, List.contains_iff_mem]
    exact hnul
  rw [exists?, if_neg (Bool.eq_false_iff.1 hcontains), h.locate_child hfits]

theorem read_child (h : t.HasDirectory base) (hfits : Fits base name) {bytes : List UInt8}
    (hthere : t.entry? (base.names ++ [name]) = some (.file bytes)) (cwd : Path) :
    t.read cwd (child base name) = .ok bytes := by
  rw [read, h.locate_child hfits]
  dsimp only [Bind.bind, Except.bind]
  rw [hthere]

theorem update_child (h : t.HasDirectory base) (hfits : Fits base name) {old : Option (List UInt8)}
    (hthere : t.entry? (base.names ++ [name]) = old.map .file) (cwd : Path)
    (change : List UInt8 → List UInt8) :
    t.update cwd (child base name) change =
      .ok (t.put (base.names ++ [name]) (.file (change (old.getD [])))) := by
  rw [update, h.locate_child hfits]
  dsimp only [Bind.bind, Except.bind]
  rw [hthere]
  cases old <;> rfl

theorem put (h : t.HasDirectory base) (name : String) (e : Entry) :
    (t.put (base.names ++ [name]) e).HasDirectory base where
  absolute := h.absolute
  leads.downwards := h.leads.downwards
  leads.there := by
    intro n
    have hne : base.names.take n ≠ base.names ++ [name] := by
      intro heq
      have hlength := congrArg List.length heq
      rw [List.length_append, List.length_singleton, List.length_take] at hlength
      omega
    rw [List.nil_append, entry?_put t (by simp), if_neg hne]
    exact h.leads.there n

end HasDirectory

end TableTalk.Files

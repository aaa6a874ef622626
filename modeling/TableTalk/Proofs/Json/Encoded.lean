import TableTalk.Json.Encoded
import TableTalk.Json.Reader
import TableTalk.Proofs.Json.RoundTrip
import TableTalk.Proofs.Text.Utf8

/-!
# JSON in bytes

Bytes are encoded JSON of a value if their text is not nested too deeply and is read as the value. A
record or list that is itself not nested too deeply, written out and encoded in UTF-8, is such.
-/

namespace TableTalk.Json

open Double Text

def IsEncoded (bytes : List UInt8) (j : Json) : Prop :=
  ∃ cs, decode? bytes = some cs ∧ isTooDeep cs = false ∧ parseChars cs = .ok j

theorem replaceSurrogates_cons {b : UInt8} (hb : b ≠ 0xED) (rest : List UInt8) :
    replaceSurrogates (b :: rest) = b :: replaceSurrogates rest := by
  rw [replaceSurrogates]
  exact fun _ _ _ h => absurd h hb

/-- A byte that is not the first one of its character is none of the marks of a surrogate. -/
theorem tail_ne (n : Nat) : UInt8.ofNat (0x80 + n % 64) ≠ 0xED := by
  intro h
  have hnat := congrArg UInt8.toNat h
  rw [toNat_tail] at hnat
  have hmark : UInt8.toNat 0xED = 0xED := rfl
  omega

theorem ofNat_ne {n : Nat} (hn : n < 256) (hne : n ≠ 0xED) : UInt8.ofNat n ≠ 0xED := by
  intro h
  have hnat := congrArg UInt8.toNat h
  rw [UInt8.toNat_ofNat'] at hnat
  have hmark : UInt8.toNat 0xED = 0xED := rfl
  omega

theorem replaceSurrogates_encodeChar (c : Char) (rest : List UInt8) :
    replaceSurrogates (encodeChar c ++ rest) = encodeChar c ++ replaceSurrogates rest := by
  have hvalid : c.toNat < 0xD800 ∨ 0xDFFF < c.toNat ∧ c.toNat < 0x110000 := c.valid
  rw [encodeChar]
  dsimp only
  by_cases hone : c.toNat < 0x80
  · rw [if_pos hone]
    exact replaceSurrogates_cons (ofNat_ne (by omega) (by omega)) rest
  rw [if_neg hone]
  by_cases htwo : c.toNat < 0x800
  · rw [if_pos htwo]
    simp only [List.cons_append, List.nil_append]
    rw [replaceSurrogates_cons (ofNat_ne (by omega) (by omega)),
      replaceSurrogates_cons (tail_ne _)]
  rw [if_neg htwo]
  by_cases hthree : c.toNat < 0x10000
  · rw [if_pos hthree]
    simp only [List.cons_append, List.nil_append]
    by_cases hlead : c.toNat / 4096 = 0xD
    · -- A character below the surrogates has a second byte below theirs.
      have hsecond : (UInt8.ofNat (0x80 + c.toNat / 64 % 64)).toNat < 0xA0 := by
        rw [toNat_tail]
        omega
      have hnone : ¬ (0xA0 ≤ UInt8.ofNat (0x80 + c.toNat / 64 % 64) ∧
          UInt8.ofNat (0x80 + c.toNat / 64 % 64) ≤ 0xBF ∧
            0x80 ≤ UInt8.ofNat (0x80 + c.toNat / 1 % 64) ∧
              UInt8.ofNat (0x80 + c.toNat / 1 % 64) ≤ 0xBF) := by
        intro h
        exact absurd (UInt8.le_iff_toNat_le.1 h.1) (Nat.not_le_of_lt hsecond)
      have hmark : UInt8.ofNat (0xE0 + c.toNat / 4096) = 0xED := by
        rw [hlead]
        rfl
      rw [hmark, replaceSurrogates, if_neg hnone, replaceSurrogates_cons (tail_ne _),
        replaceSurrogates_cons (tail_ne _)]
    · rw [replaceSurrogates_cons (ofNat_ne (by omega) (by omega)),
        replaceSurrogates_cons (tail_ne _), replaceSurrogates_cons (tail_ne _)]
  · rw [if_neg hthree]
    simp only [List.cons_append, List.nil_append]
    rw [replaceSurrogates_cons (ofNat_ne (by omega) (by omega)),
      replaceSurrogates_cons (tail_ne _), replaceSurrogates_cons (tail_ne _),
      replaceSurrogates_cons (tail_ne _)]

theorem replaceSurrogates_encodeUtf8 (cs : List Char) :
    replaceSurrogates (encodeUtf8 cs) = encodeUtf8 cs := by
  induction cs with
  | nil => rfl
  | cons c cs ih =>
    have hcons : encodeUtf8 (c :: cs) = encodeChar c ++ encodeUtf8 cs := List.flatMap_cons
    rw [hcons, replaceSurrogates_encodeChar, ih]

theorem formOf_ascii {b b' : UInt8} (hb : b.toNat < 0x80) (hb0 : b ≠ 0) (hb0' : b' ≠ 0)
    (rest : List UInt8) : formOf (b :: b' :: rest) = (.utf8, b :: b' :: rest) := by
  have hmarks : ∀ mark ∈ marks,
      mark.1 ≠ [] ∧ ∀ first ∈ mark.1.head?, first = 0 ∨ 0x80 ≤ first.toNat := by
    simp [marks]
  have hnone : (marks.find? fun mark => mark.1.isPrefixOf (b :: b' :: rest)) = none := by
    rw [List.find?_eq_none]
    rintro ⟨_ | ⟨first, more⟩, form⟩ hmem hstart
    · exact (hmarks _ hmem).1 rfl
    · obtain rfl : first = b := (List.cons_prefix_cons.1 (List.isPrefixOf_iff_prefix.1 hstart)).1
      exact ((hmarks _ hmem).2 _ rfl).elim hb0 (Nat.not_le_of_lt hb)
  have hzeros : (b == 0) = false ∧ (b' == 0) = false := by simp [hb0, hb0']
  rw [formOf, hnone, List.map_cons, List.map_cons, hzeros.1, hzeros.2]
  cases rest.map (· == 0) <;> rfl

/-- Text that starts with an ASCII character and goes on with another is taken for UTF-8. -/
theorem decode?_encodeUtf8 {c d : Char} (hc : c.toNat < 0x80) (hd : d.toNat < 0x80)
    (hc0 : 0 < c.toNat) (hd0 : 0 < d.toNat) (rest : List Char) :
    decode? (encodeUtf8 (c :: d :: rest)) = some (c :: d :: rest) := by
  have hbytes : encodeUtf8 (c :: d :: rest) =
      UInt8.ofNat c.toNat :: UInt8.ofNat d.toNat :: encodeUtf8 rest := by
    simp [encodeUtf8, encodeChar, hc, hd]
  have hbyte {n : Nat} (hn : n < 0x80) : (UInt8.ofNat n).toNat = n := by
    rw [UInt8.toNat_ofNat']
    omega
  have hzero {n : Nat} (hn : n < 0x80) (hn0 : 0 < n) : UInt8.ofNat n ≠ 0 := by
    intro h
    have hnat := congrArg UInt8.toNat h
    rw [hbyte hn] at hnat
    exact absurd hnat (Nat.ne_of_gt hn0)
  have hform : formOf (encodeUtf8 (c :: d :: rest)) = (.utf8, encodeUtf8 (c :: d :: rest)) := by
    rw [hbytes]
    exact formOf_ascii ((hbyte hc).symm ▸ hc) (hzero hc hc0) (hzero hd hd0) _
  rw [decode?, hform]
  dsimp only
  rw [replaceSurrogates_encodeUtf8, decodeUtf8?_encodeUtf8]

def IsFlat (cs : List Char) : Prop :=
  ∀ c ∈ cs, c ≠ '"' ∧ c ≠ '[' ∧ c ≠ '{' ∧ c ≠ ']' ∧ c ≠ '}'

instance (cs : List Char) : Decidable (IsFlat cs) :=
  List.decidableBAll _ cs

theorem isFlat_of_isNumberChar {cs : List Char} (h : ∀ c ∈ cs, IsNumberChar c) : IsFlat cs := by
  intro c hc
  rcases h c hc with hdigit | hmark
  · refine ⟨?_, ?_, ?_, ?_, ?_⟩ <;> (rintro rfl; cases hdigit)
  · exact (by decide : IsFlat numberMarks) c hmark

variable {depth : Nat} {more : List Char}

theorem deepest_flat {cs : List Char} (h : IsFlat cs) :
    deepest .outside depth (cs ++ more) = deepest .outside depth more := by
  induction cs with
  | nil => rfl
  | cons c cs ih =>
    obtain ⟨hquote, hbracket, hbrace, hclose, hclose'⟩ := h c List.mem_cons_self
    rw [List.cons_append, deepest, if_neg hquote, if_neg (not_or.2 ⟨hbracket, hbrace⟩),
      if_neg (not_or.2 ⟨hclose, hclose'⟩), ih fun d hd => h d (List.mem_cons_of_mem c hd)]

theorem deepest_plain {cs : List Char} (h : ∀ c ∈ cs, c ≠ '"' ∧ c ≠ '\\') :
    deepest .inside depth (cs ++ more) = deepest .inside depth more := by
  induction cs with
  | nil => rfl
  | cons c cs ih =>
    obtain ⟨hquote, hslash⟩ := h c List.mem_cons_self
    rw [List.cons_append, deepest, if_neg hquote, if_neg hslash,
      ih fun d hd => h d (List.mem_cons_of_mem c hd)]

theorem deepest_escapeChar (c : Char) :
    deepest .inside depth (escapeChar c ++ more) = deepest .inside depth more := by
  rcases escapeChar_cases c with
    ⟨letter, hescape, -⟩ | ⟨hcontrol, hescape⟩ | ⟨hescape, -, hquote, hslash⟩
  · rw [hescape]
    rfl
  · obtain ⟨x, y, z, t, hdigits, hx, hy, hz, ht⟩ := hexDigits_control hcontrol
    have hplain {d : Char} {n : Nat} (hd : hexValue? d = some n) : d ≠ '"' ∧ d ≠ '\\' := by
      constructor <;> (rintro rfl; cases hd)
    have hrest : deepest .inside depth ([x, y, z, t] ++ more) = deepest .inside depth more :=
      deepest_plain (by simpa using ⟨hplain hx, hplain hy, hplain hz, hplain ht⟩)
    rw [hescape, hdigits]
    exact hrest
  · rw [hescape]
    exact deepest_plain (by simpa using ⟨hquote, hslash⟩)

theorem deepest_writeText (s : String) :
    deepest .outside depth (writeText s ++ more) = deepest .outside depth more := by
  have hinside (cs : List Char) : deepest .inside depth (cs.flatMap escapeChar ++ '"' :: more) =
      deepest .outside depth more := by
    induction cs with
    | nil => rfl
    | cons c cs ih => rw [List.flatMap_cons, List.append_assoc, deepest_escapeChar, ih]
  rw [writeText_append]
  exact hinside s.toList

/-- A value with at most so many lists and records inside one another. -/
inductive NestsWithin : Nat → Json → Prop
  | null {n : Nat} : NestsWithin n .null
  | bool {n : Nat} (b : Bool) : NestsWithin n (.bool b)
  | int {n : Nat} (i : Int) : NestsWithin n (.int i)
  | float {n : Nat} (d : Double) : NestsWithin n (.float d)
  | text {n : Nat} (s : String) : NestsWithin n (.text s)
  | list {n : Nat} {items : List Json} : (∀ j ∈ items, NestsWithin n j) →
      NestsWithin (n + 1) (.list items)
  | record {n : Nat} {fields : List (String × Json)} : (∀ f ∈ fields, NestsWithin n f.2) →
      NestsWithin (n + 1) (.record fields)

theorem NestsWithin.exists_of_record {n : Nat} {fields : List (String × Json)}
    (h : NestsWithin n (.record fields)) : ∃ m, n = m + 1 ∧ ∀ f ∈ fields, NestsWithin m f.2 := by
  cases h with
  | @record m _ hfields => exact ⟨m, rfl, hfields⟩

/-- The text of a value goes no deeper than the value is nested, and the text behind it starts as
deep as it does. -/
def WritesWithin (n : Nat) (j : Json) : Prop :=
  ∀ depth more, deepest .outside depth (writeChars j ++ more) ≤
    max (depth + n) (deepest .outside depth more)

theorem deepest_colon (cs : List Char) :
    deepest .outside depth (':' :: ' ' :: cs) = deepest .outside depth cs :=
  deepest_flat (show IsFlat [':', ' '] by decide)

theorem deepest_comma (cs : List Char) :
    deepest .outside depth (',' :: ' ' :: cs) = deepest .outside depth cs :=
  deepest_flat (show IsFlat [',', ' '] by decide)

theorem writesWithin_of_eq {n : Nat} {j : Json}
    (h : ∀ depth more, deepest .outside depth (writeChars j ++ more) =
      deepest .outside depth more) : WritesWithin n j :=
  fun depth more => (h depth more).symm ▸ Nat.le_max_right _ _

theorem writesWithin_of_isFlat {n : Nat} {j : Json} (h : IsFlat (writeChars j)) :
    WritesWithin n j :=
  writesWithin_of_eq fun _ _ => deepest_flat h

theorem deepest_writeItems {n : Nat} {items : List Json} (h : ∀ j ∈ items, WritesWithin n j) :
    deepest .outside depth (writeItems items ++ more) ≤
      max (depth + n) (deepest .outside depth more) := by
  induction items with
  | nil => exact Nat.le_max_right _ _
  | cons j items ih =>
    have hj := h j List.mem_cons_self
    by_cases hitems : items = []
    · rw [hitems, writeItems]
      exact hj depth more
    · have hrest := ih fun j hmem => h j (List.mem_cons_of_mem _ hmem)
      have hfirst := hj depth (',' :: ' ' :: (writeItems items ++ more))
      rw [deepest_comma] at hfirst
      rw [writeItems_cons hitems]
      simp only [List.append_assoc, List.cons_append]
      omega

theorem deepest_writeFields {n : Nat} {fields : List (String × Json)}
    (h : ∀ f ∈ fields, WritesWithin n f.2) :
    deepest .outside depth (writeFields fields ++ more) ≤
      max (depth + n) (deepest .outside depth more) := by
  induction fields with
  | nil => exact Nat.le_max_right _ _
  | cons f fields ih =>
    have hf := h f List.mem_cons_self
    by_cases hfields : fields = []
    · rw [hfields, writeFields_single, List.append_assoc, deepest_writeText]
      simp only [List.cons_append, deepest_colon]
      exact hf depth more
    · have hrest := ih fun f hmem => h f (List.mem_cons_of_mem _ hmem)
      have hfirst := hf depth (',' :: ' ' :: (writeFields fields ++ more))
      rw [deepest_comma] at hfirst
      rw [writeFields_cons hfields, List.append_assoc, deepest_writeText]
      simp only [List.append_assoc, List.cons_append, deepest_colon]
      omega

/-- Behind a bracket and before the one that closes it, a text is one deeper. -/
theorem deepest_enclosed {n : Nat} {cs : List Char} {last : Char} (hlast : last = ']' ∨ last = '}')
    (h : ∀ more, deepest .outside (depth + 1) (cs ++ more) ≤
      max (depth + 1 + n) (deepest .outside (depth + 1) more)) :
    deepest .outside (depth + 1) (cs ++ last :: more) ≤
      max (depth + (n + 1)) (deepest .outside depth more) := by
  have hclose : deepest .outside (depth + 1) (last :: more) =
      max (depth + 1) (deepest .outside depth more) := by
    rcases hlast with rfl | rfl <;> rfl
  have hcs := h (last :: more)
  rw [hclose] at hcs
  omega

theorem writesWithin_of_nestsWithin {n : Nat} {j : Json} (hvalue : IsValue j)
    (h : NestsWithin n j) : WritesWithin n j := by
  induction h with
  | null => exact writesWithin_of_isFlat (show IsFlat "null".toList by decide)
  | bool b =>
    cases b
    · exact writesWithin_of_isFlat (show IsFlat "false".toList by decide)
    · exact writesWithin_of_isFlat (show IsFlat "true".toList by decide)
  | int i => exact writesWithin_of_isFlat (isFlat_of_isNumberChar isNumberChar_of_mem_int)
  | float d =>
    cases hvalue with
    | float hd =>
      exact writesWithin_of_isFlat (isFlat_of_isNumberChar (isNumberChar_of_mem_float hd))
  | text s => exact writesWithin_of_eq fun _ _ => deepest_writeText s
  | list _ ih =>
    cases hvalue with
    | list hitems =>
      intro depth more
      rw [writeChars_list]
      exact deepest_enclosed (.inl rfl) fun _ =>
        deepest_writeItems fun j hmem => ih j hmem (hitems j hmem)
  | record _ ih =>
    cases hvalue with
    | record _ hfields =>
      intro depth more
      rw [writeChars_record]
      exact deepest_enclosed (.inr rfl) fun _ =>
        deepest_writeFields fun f hmem => ih f hmem (hfields f hmem)

theorem isTooDeep_writeChars {n : Nat} {j : Json} (hvalue : IsValue j) (hnests : NestsWithin n j)
    (hn : n ≤ nestingLimit) : isTooDeep (writeChars j) = false := by
  have hdeep := writesWithin_of_nestsWithin hvalue hnests 0 []
  rw [List.append_nil, deepest, Nat.zero_add, Nat.max_zero] at hdeep
  exact decide_eq_false (Nat.not_lt_of_le (Nat.le_trans hdeep hn))

def nestedList : Nat → Json
  | 0 => .list []
  | n + 1 => .list [nestedList n]

theorem isValue_nestedList (n : Nat) : IsValue (nestedList n) := by
  induction n with
  | zero => exact .list fun _ hj => absurd hj List.not_mem_nil
  | succ n ih => exact .list fun _ hj => List.mem_singleton.1 hj ▸ ih

theorem nestsWithin_nestedList (n : Nat) : NestsWithin (n + 1) (nestedList n) := by
  induction n with
  | zero => exact .list fun _ hj => absurd hj List.not_mem_nil
  | succ n ih => exact .list fun _ hj => List.mem_singleton.1 hj ▸ ih

theorem le_deepest_nestedList (n depth : Nat) (more : List Char) :
    depth + (n + 1) ≤ deepest .outside depth (writeChars (nestedList n) ++ more) := by
  induction n generalizing depth more with
  | zero => exact Nat.le_max_left (depth + 1) (deepest .outside depth more)
  | succ n ih =>
    have hitems : writeItems [nestedList n] = writeChars (nestedList n) := rfl
    have hinner := ih (depth + 1) (']' :: more)
    rw [nestedList, writeChars_list, hitems]
    exact Nat.le_trans (by omega) hinner

/-- A record with a field, written and put in bytes, is read back. -/
theorem isEncoded_record {n : Nat} {fields : List (String × Json)} (hne : fields ≠ [])
    (hvalue : IsValue (.record fields)) (hnests : NestsWithin n (.record fields))
    (hn : n ≤ nestingLimit) :
    IsEncoded (encodeUtf8 (writeChars (.record fields))) (.record fields) := by
  obtain ⟨cs, hcs⟩ : ∃ cs, writeChars (.record fields) = '{' :: '"' :: cs := by
    obtain ⟨cs, hcs⟩ := writeFields_head hne
    exact ⟨cs ++ ['}'], by rw [writeChars, hcs]; rfl⟩
  refine ⟨writeChars (.record fields), ?_, isTooDeep_writeChars hvalue hnests hn,
    parseChars_writeChars hvalue⟩
  rw [hcs]
  exact decode?_encodeUtf8 (by decide) (by decide) (by decide) (by decide) cs

end TableTalk.Json

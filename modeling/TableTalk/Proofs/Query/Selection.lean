import Mathlib.Data.List.Nodup
import TableTalk.Proofs.Query.Columns
import TableTalk.Proofs.Query.Passing
import TableTalk.Proofs.Query.Refusal
import TableTalk.Proofs.Text.Lower

/-!
# Columns selected by name

A query that lists headers of a table returns these columns, unless a header that starts with `from`
comes after another one. The white space in front of it then ends the list, as that in front of the
keyword would, and in place of it the first column is returned.
-/

namespace TableTalk.Query

open Text

def selectionText (names : List String) : String :=
  "SELECT " ++ join ", " names ++ " FROM t"

def selection (t : Table) (names : List String) : Answer where
  columns := names
  rows := t.rows.map fun row => names.map fun name => cellAt row (t.headers.idxOf name)

def loweredChars (name : String) : List Char :=
  name.toList.map Char.toLower

def keywords : List (List Char) :=
  [selectWord, fromWord, whereWord, likeWord, orderWord, byWord, limitWord, castWord, asWord,
    ascWord, descWord]

/-- A letter, followed by letters, digits and underscores, all in ASCII, and no keyword. -/
structure IsOrdinary (name : String) : Prop where
  letter : (name.toList.head?.any Char.isAlpha) = true
  isWordAscii : ∀ c ∈ name.toList, isWordAscii c = true
  not_keyword : loweredChars name ∉ keywords

structure HasOrdinaryHeaders (headers : List String) : Prop where
  isOrdinary : ∀ header ∈ headers, IsOrdinary header
  nodup : (headers.map lower).Nodup

instance (name : String) : Decidable (IsOrdinary name) :=
  decidable_of_iff ((name.toList.head?.any Char.isAlpha) = true ∧
      name.toList.all Text.isWordAscii = true ∧ loweredChars name ∉ keywords)
    ⟨fun ⟨hletter, hword, hkeyword⟩ => ⟨hletter, List.all_eq_true.1 hword, hkeyword⟩,
      fun h => ⟨h.letter, List.all_eq_true.2 h.isWordAscii, h.not_keyword⟩⟩

instance (headers : List String) : Decidable (HasOrdinaryHeaders headers) :=
  decidable_of_iff ((∀ header ∈ headers, IsOrdinary header) ∧ (headers.map lower).Nodup)
    ⟨fun ⟨hordinary, hnodup⟩ => ⟨hordinary, hnodup⟩, fun h => ⟨h.isOrdinary, h.nodup⟩⟩

def StartsWithFrom (name : String) : Prop :=
  fromWord <+: loweredChars name

instance (name : String) : Decidable (StartsWithFrom name) :=
  inferInstanceAs (Decidable (_ <+: _))

structure IsAsciiWord (x : List Char) : Prop where
  ne_nil : x ≠ []
  isWordAscii : ∀ c ∈ x, isWordAscii c = true

theorem IsAsciiWord.isBlank_eq_false {x : List Char} (h : IsAsciiWord x) :
    ∀ c ∈ x, isBlank c = false :=
  fun c hc => isBlank_of_isWordAscii (h.isWordAscii c hc)

theorem IsAsciiWord.notMem {x : List Char} (h : IsAsciiWord x) {c : Char}
    (hc : Text.isWordAscii c = false) : c ∉ x := by
  intro hmem
  rw [h.isWordAscii c hmem] at hc
  exact absurd hc (by decide)

def listed (x : List Char) : List (List Char) → List Char
  | [] => x
  | y :: rest => x ++ ',' :: ' ' :: listed y rest

def columnPart (x : List Char) : List (List Char) → List Char
  | [] => x
  | y :: rest => if fromWord <+: y then x ++ [','] else x ++ ',' :: ' ' :: columnPart y rest

/-- The words behind the first that are taken for columns; nothing stands for the one at which the
columns end. -/
def wordsAfter : List (List Char) → List (List Char)
  | [] => []
  | y :: rest => if fromWord <+: y then [[]] else y :: wordsAfter rest

def afterColumns : List Char :=
  ' ' :: (fromWord ++ [' ', 't'])

theorem toList_join_cons (name : String) (names : List String) :
    (join ", " (name :: names)).toList = listed name.toList (names.map String.toList) := by
  induction names generalizing name with
  | nil => simp [join, listed]
  | cons next names ih =>
    have hnext := ih next
    rw [join] at hnext
    rw [join, String.intercalate_cons_cons, String.toList_append, hnext, List.map_cons, listed,
      String.toList_append, List.append_assoc]
    rfl

theorem map_toLower_listed (x : List Char) (ys : List (List Char)) :
    (listed x ys).map Char.toLower =
      listed (x.map Char.toLower) (ys.map fun y => y.map Char.toLower) := by
  induction ys generalizing x with
  | nil => rfl
  | cons y ys ih =>
    simp only [listed, List.map_append, List.map_cons, ih]
    rfl

section Lists

variable {x : List Char} {ys : List (List Char)}

theorem forall_head?_cons {p : Char → Prop} {c : Char} (h : p c) (cs : List Char) :
    ∀ d ∈ (c :: cs).head?, p d :=
  fun _ hd => Option.some.inj hd ▸ h

/-- The text in front of a list's end is a word and does not go on with it. -/
theorem exists_listed (x : List Char) (ys : List (List Char)) :
    ∃ rest, listed x ys ++ afterColumns = x ++ rest ∧ (∀ c ∈ rest.head?, isWord c = false) ∧
      ∀ c ∈ (skipBlanks rest).head?, c ≠ 'b' ∧ isDigit c = false := by
  cases ys with
  | nil =>
    exact ⟨afterColumns, rfl, forall_head?_cons (by decide) _, forall_head?_cons (by decide) _⟩
  | cons y ys =>
    refine ⟨',' :: ' ' :: (listed y ys ++ afterColumns), by simp [listed],
      forall_head?_cons (by decide) _, ?_⟩
    rw [skipBlanks_of_head (forall_head?_cons (by decide) _)]
    exact forall_head?_cons (by decide) _

theorem upTo?_fromAhead_listed (hx : IsAsciiWord x) (hys : ∀ y ∈ ys, IsAsciiWord y) :
    upTo? fromAhead (listed x ys ++ afterColumns) = some (columnPart x ys) := by
  induction ys generalizing x with
  | nil =>
    have hend : upTo? fromAhead afterColumns = some [] := by decide +kernel
    have hword := upTo?_word fromAhead_of_not_blank hx.isBlank_eq_false hend
    rwa [List.append_nil] at hword
  | cons y ys ih =>
    obtain ⟨hy, hothers⟩ := List.forall_mem_cons.1 hys
    obtain ⟨c, y', rfl⟩ := List.exists_cons_of_ne_nil hy.ne_nil
    have hc : isBlank c = false := hy.isBlank_eq_false c List.mem_cons_self
    obtain ⟨rest, hrest, hword, -⟩ := exists_listed (c :: y') ys
    have hgap : Piece.gap.Admits [' '] := ⟨by simp, by decide⟩
    have hahead : fromAhead (' ' :: (listed (c :: y') ys ++ afterColumns)) =
        startsWith fromWord ((c :: y') ++ rest) := by
      rw [hrest]
      exact fromAhead_gap hgap hc _
    have hnext : upTo? fromAhead (' ' :: (listed (c :: y') ys ++ afterColumns)) =
        some (if fromWord <+: c :: y' then [] else ' ' :: columnPart (c :: y') ys) := by
      by_cases hfrom : fromWord <+: c :: y'
      · rw [if_pos hfrom]
        apply upTo?_of_stop
        rw [hahead]
        exact List.isPrefixOf_iff_prefix.2 (hfrom.trans (List.prefix_append _ _))
      · rw [if_neg hfrom]
        refine upTo?_cons ?_ (ih hy hothers)
        rw [hahead]
        exact startsWith_eq_false fun h => hfrom (keyword_isPrefix (by decide) hword h)
    have hcomma := upTo?_cons (fromAhead_of_not_blank ',' _ (by decide)) hnext
    have hlist := upTo?_word fromAhead_of_not_blank hx.isBlank_eq_false hcomma
    simp only [listed, List.append_assoc, List.cons_append] at hlist ⊢
    rw [hlist, columnPart]
    split <;> rfl

theorem trimChars_asciiWord {w : List Char} (hw : IsRoom w) (hx : IsAsciiWord x) :
    trimChars (w ++ x) = x := by
  have htrim : trimChars (w ++ (x ++ [])) = x := trimChars_append hw.1 rfl
    (fun c hc => hx.isBlank_eq_false c (List.mem_of_head? hc))
    (fun c hc => hx.isBlank_eq_false c (List.mem_of_getLast? hc))
  rwa [List.append_nil] at htrim

theorem map_trimChars_splitOn {w : List Char} (hw : IsRoom w) (hx : IsAsciiWord x)
    (hys : ∀ y ∈ ys, IsAsciiWord y) :
    (splitOn ',' (w ++ columnPart x ys)).map trimChars = x :: wordsAfter ys := by
  have hcomma : ',' ∉ w ++ x := by
    rw [List.mem_append, not_or]
    exact ⟨hw.notMem (by decide), hx.notMem (by decide)⟩
  induction ys generalizing w x with
  | nil =>
    rw [columnPart, splitOn_eq, List.splitOn_eq_singleton hcomma, List.map_singleton,
      trimChars_asciiWord hw hx]
    rfl
  | cons y ys ih =>
    obtain ⟨hy, hys⟩ := List.forall_mem_cons.1 hys
    have hsplit (rest : List Char) : (splitOn ',' (w ++ (x ++ ',' :: rest))).map trimChars =
        x :: (splitOn ',' rest).map trimChars := by
      rw [← List.append_assoc, splitOn_eq, List.splitOn_append_cons_self_of_not_mem hcomma,
        List.map_cons, trimChars_asciiWord hw hx, splitOn_eq]
    rw [columnPart, wordsAfter]
    split
    · exact hsplit []
    · have hblank : IsRoom [' '] := by decide
      have hnext : ',' ∉ [' '] ++ y := by
        rw [List.mem_append, not_or]
        exact ⟨by decide, hy.notMem (by decide)⟩
      rw [hsplit, ← ih hblank hy hys hnext]
      rfl

theorem columnPart_ne_star (hx : IsAsciiWord x) : trimChars (columnPart x ys) ≠ ['*'] := by
  obtain ⟨c, x', rfl⟩ := List.exists_cons_of_ne_nil hx.ne_nil
  have hfront : ∃ rest, columnPart (c :: x') ys = c :: rest := by
    cases ys with
    | nil => exact ⟨x', rfl⟩
    | cons y ys =>
      rw [columnPart]
      split <;> exact ⟨_, rfl⟩
  obtain ⟨rest, hrest⟩ := hfront
  have hword := hx.isWordAscii c List.mem_cons_self
  intro hstar
  rw [hrest, trimChars, trimLeft_eq_self (by simpa using isBlank_of_isWordAscii hword)] at hstar
  have hprefix : ['*'] <+: c :: rest := hstar ▸ trimRight_isPrefix _
  rw [← (List.cons_prefix_cons.1 hprefix).1] at hword
  exact absurd hword (by decide)

theorem projectionOf_columnPart (hx : IsAsciiWord x) (hys : ∀ y ∈ ys, IsAsciiWord y) :
    projectionOf (columnPart x ys) = some ((x :: wordsAfter ys).map String.ofList) := by
  have hsplit := map_trimChars_splitOn isRoom_nil hx hys
  rw [projectionOf, if_neg (columnPart_ne_star hx), ← hsplit, List.map_map]
  rfl

def listText (x : List Char) (ys : List (List Char)) : List Char :=
  selectWord ++ ' ' :: (listed x ys ++ afterColumns)

theorem selected_listText (hx : IsAsciiWord x) (hys : ∀ y ∈ ys, IsAsciiWord y) :
    selected (listText x ys) = some (columnPart x ys) := by
  obtain ⟨rest, hrest, -, -⟩ := exists_listed x ys
  obtain ⟨c, x', rfl⟩ := List.exists_cons_of_ne_nil hx.ne_nil
  have hc : isBlank c = false := hx.isBlank_eq_false c List.mem_cons_self
  have hbody : skipBlanks (' ' :: (listed (c :: x') ys ++ afterColumns)) =
      listed (c :: x') ys ++ afterColumns := by
    rw [hrest]
    exact skipBlanks_room (w := [' ']) (by decide) hc _
  have hgap : (' ' :: (listed (c :: x') ys ++ afterColumns)).length -
      (listed (c :: x') ys ++ afterColumns).length ≠ 0 := by
    rw [List.length_cons]
    omega
  apply findFirst_of_some
  rw [selectedHere, listText, dropStart?_append]
  simp only [hbody, if_neg hgap, upTo?_fromAhead_listed hx hys]

/-- A limit or an ordering is found in no list of words. -/
theorem findFirst_listed {α : Type} {word : List Char} {starts : Char → Bool}
    {look : List Char → Option α} (hs : ClauseSearch word starts look) (hword : word ≠ whereWord)
    (hx : IsAsciiWord x) (hys : ∀ y ∈ ys, IsAsciiWord y) :
    findFirst look (listed x ys ++ afterColumns) = none := by
  have hpass {x : List Char} (hx : IsAsciiWord x) (rest : List Char)
      (hhead : ∀ c ∈ rest.head?, isWord c = false)
      (hnext : ∀ c ∈ (skipBlanks rest).head?, c ≠ 'b' ∧ isDigit c = false) :
      findFirst look (x ++ rest) = findFirst look rest := by
    apply hs.pass_word hx.isWordAscii hhead
    intro _ c hc
    obtain ⟨hb, hdigit⟩ := hnext c hc
    by_contra hstart
    rcases hs.starts_of_ne hword c (by simpa using hstart) with rfl | h
    · exact hb rfl
    · rw [hdigit] at h
      exact absurd h (by decide)
  induction ys generalizing x with
  | nil =>
    have hend : findFirst look afterColumns = none := by
      have ht : afterColumns = [' '] ++ (fromWord ++ ([' '] ++ (['t'] ++ []))) := rfl
      have hroom : ∀ c ∈ ([' '] ++ (['t'] ++ [])).head?, isWord c = false :=
        forall_head?_cons (by decide) _
      rw [ht, hs.pass_room (by decide), hs.pass_fixed (by decide) (hs.not_suffix (by decide))
        hroom, hs.pass_room (by decide), hs.pass_fixed (by decide)
        (hs.not_suffix (by decide)) (by simp), hs.findFirst_nil]
    rw [listed, hpass hx afterColumns (forall_head?_cons (by decide) _)
      (forall_head?_cons (by decide) _), hend]
  | cons y ys ih =>
    obtain ⟨hy, hys⟩ := List.forall_mem_cons.1 hys
    have hnext : ∀ c ∈ (skipBlanks (',' :: ' ' :: (listed y ys ++ afterColumns))).head?,
        c ≠ 'b' ∧ isDigit c = false := by
      rw [skipBlanks_of_head (forall_head?_cons (by decide) _)]
      exact forall_head?_cons (by decide) _
    have hcomma : ∀ c ∈ (',' :: ' ' :: (listed y ys ++ afterColumns)).head?, isWord c = false :=
      forall_head?_cons (by decide) _
    simp only [listed, List.append_assoc, List.cons_append]
    rw [hpass hx _ hcomma hnext, hs.pass_char (by decide), hs.pass_char (by decide), ih hy hys]

theorem findFirst_listText {α : Type} {word : List Char} {starts : Char → Bool}
    {look : List Char → Option α} (hs : ClauseSearch word starts look) (hword : word ≠ whereWord)
    (hx : IsAsciiWord x) (hys : ∀ y ∈ ys, IsAsciiWord y) :
    findFirst look (listText x ys) = none := by
  have hhead : ∀ c ∈ (' ' :: (listed x ys ++ afterColumns)).head?, isWord c = false :=
    forall_head?_cons (by decide) _
  rw [listText, hs.pass_fixed (by decide) (hs.not_suffix (by decide)) hhead,
    hs.pass_char (by decide), findFirst_listed hs hword hx hys]

end Lists

/-- A condition is a part of the text. -/
theorem condition_isInfix {cs clause : List Char} (h : condition cs = some clause) :
    clause <:+: cs := by
  obtain ⟨y, hy, hfound, -⟩ := findFirst_eq_some_iff.1 h
  rw [conditionHere] at hfound
  split at hfound
  · next c rest hafter =>
    obtain ⟨t, ht, rfl⟩ := Option.map_eq_some_iff.1 hfound
    obtain ⟨after, hdrop, hblanks⟩ := Option.bind_eq_some_iff.1 hafter
    obtain ⟨r, rfl, -⟩ := exists_of_upTo? ht
    have hword : y = whereWord ++ after := dropStart?_eq_some_iff.1 hdrop
    have hrest : c :: (t ++ r) <:+ after := by
      rw [eq_skipBlanks_of_afterBlanks? hblanks]
      exact List.dropWhile_suffix _
    have hclause : c :: t <:+: after :=
      List.IsInfix.trans (List.prefix_append (c :: t) r).isInfix hrest.isInfix
    exact hclause.trans ((hword ▸ List.suffix_append whereWord after).isInfix.trans hy.isInfix)
  · cases hfound

theorem likeHere_of_no_quote {cs : List Char} (h : ∀ c ∈ cs, isQuote c = false) :
    likeHere cs = none := by
  rw [likeHere]
  split
  · rfl
  · next column rest hword =>
    split
    · next q value hafter =>
      obtain ⟨after, hlike, hvalue⟩ := Option.bind_eq_some_iff.1 hafter
      obtain ⟨blanks, hblanks, hdrop⟩ := Option.bind_eq_some_iff.1 hlike
      obtain ⟨w, -, rfl, -⟩ := afterBlanks?_eq_some_iff.1 hblanks
      obtain ⟨w', -, rfl, -⟩ := afterBlanks?_eq_some_iff.1 hvalue
      obtain rfl := dropStart?_eq_some_iff.1 hdrop
      obtain ⟨-, -, -, rfl⟩ := takeWord?_eq_some_iff.1 hword
      rw [if_neg (Bool.eq_false_iff.1 (h q (by simp)))]
    · rfl

/-- A condition without an equals sign and without quotes is not interpreted. -/
theorem filterOf_of_no_quote {cs : List Char} (hsign : '=' ∉ cs)
    (hquote : ∀ c ∈ cs, isQuote c = false) : filterOf cs = .uninterpreted (String.ofList cs) := by
  have hnone : likeTest cs = none := findFirst_eq_none_iff.2 fun y hy =>
    likeHere_of_no_quote fun c hc => hquote c (hy.mem hc)
  rw [filterOf, cutAt?_eq_none hsign]
  simp only [hnone]

theorem notMem_listText {x : List Char} {ys : List (List Char)} (hx : IsAsciiWord x)
    (hys : ∀ y ∈ ys, IsAsciiWord y) {c : Char} (hc : isWordAscii c = false)
    (hcomma : c ≠ ',') (hblank : c ≠ ' ') : c ∉ listText x ys := by
  have hlisted : c ∉ listed x ys := by
    induction ys generalizing x with
    | nil => exact hx.notMem hc
    | cons y ys ih =>
      obtain ⟨hy, hys⟩ := List.forall_mem_cons.1 hys
      simp only [listed, List.mem_append, List.mem_cons, not_or]
      exact ⟨hx.notMem hc, hcomma, hblank, ih hy hys⟩
  have hfixed : ∀ k ∈ [selectWord, fromWord, ['t']], k.all isWordAscii = true := by decide
  have hword (k : List Char) (hk : k ∈ [selectWord, fromWord, ['t']]) : c ∉ k := by
    intro hmem
    rw [List.all_eq_true.1 (hfixed k hk) c hmem] at hc
    exact absurd hc (by decide)
  simp only [listText, afterColumns, List.mem_append, List.mem_cons, not_or]
  exact ⟨hword _ (by simp), hblank, hlisted, hblank, hword _ (by simp), hblank,
    by simpa using hword ['t'] (by simp)⟩

theorem toLower_isWordAscii {c : Char} (h : isWordAscii c = true) :
    isWordAscii c.toLower = true :=
  forall_ascii (p := fun c => isWordAscii c = true → isWordAscii c.toLower = true) (by decide)
    (toNat_lt_of_isWordAscii h) h

namespace IsOrdinary

variable {name : String}

theorem isAscii (h : IsOrdinary name) : IsAscii name.toList :=
  fun c hc => toNat_lt_of_isWordAscii (h.isWordAscii c hc)

theorem isAsciiWord (h : IsOrdinary name) : IsAsciiWord (loweredChars name) := by
  constructor
  · intro hnil
    have hletter := h.letter
    rw [List.map_eq_nil_iff.1 hnil] at hletter
    exact absurd hletter (by decide)
  · intro c hc
    obtain ⟨d, hd, rfl⟩ := List.mem_map.1 hc
    exact toLower_isWordAscii (h.isWordAscii d hd)

theorem lower_eq (h : IsOrdinary name) : lower name = String.ofList (loweredChars name) := by
  rw [lower, lowerChars_of_isAscii h.isAscii, loweredChars]

end IsOrdinary

theorem isAscii_listed {x : List Char} {ys : List (List Char)} (hx : IsAscii x)
    (hys : ∀ y ∈ ys, IsAscii y) : IsAscii (listed x ys) := by
  induction ys generalizing x with
  | nil => exact hx
  | cons y ys ih =>
    obtain ⟨hy, hys⟩ := List.forall_mem_cons.1 hys
    exact hx.append (IsAscii.append (a := [',', ' ']) (by decide) (ih hy hys))

theorem normalize_selectionText {name : String} {names : List String} (hname : IsOrdinary name)
    (hnames : ∀ n ∈ names, IsOrdinary n) :
    normalize (selectionText (name :: names)) =
      listText (loweredChars name) (names.map loweredChars) := by
  let written := listed name.toList (names.map String.toList)
  have hchars : (selectionText (name :: names)).toList =
      ['S', 'E', 'L', 'E', 'C', 'T', ' '] ++ (written ++ [' ', 'F', 'R', 'O', 'M', ' ', 't']) := by
    have hselect : "SELECT ".toList = ['S', 'E', 'L', 'E', 'C', 'T', ' '] := rfl
    have hfrom : " FROM t".toList = [' ', 'F', 'R', 'O', 'M', ' ', 't'] := rfl
    rw [selectionText, String.toList_append, String.toList_append, toList_join_cons, hselect,
      hfrom, List.append_assoc]
  have hwritten : IsAscii written := by
    apply isAscii_listed hname.isAscii
    intro y hy
    obtain ⟨n, hn, rfl⟩ := List.mem_map.1 hy
    exact (hnames n hn).isAscii
  have hascii : IsAscii (selectionText (name :: names)).toList := by
    rw [hchars]
    exact IsAscii.append (by decide) (hwritten.append (by decide))
  have hlower : lowerChars (selectionText (name :: names)).toList =
      listText (loweredChars name) (names.map loweredChars) := by
    rw [lowerChars_of_isAscii hascii, hchars, List.map_append, List.map_append, map_toLower_listed,
      List.map_map]
    rfl
  have hlast : (listText (loweredChars name) (names.map loweredChars)).getLast? = some 't' := by
    simp [listText, afterColumns, List.getLast?_append, List.getLast?_cons]
  rw [normalize, hlower]
  apply trimChars_eq_self
  · exact forall_head?_cons (by decide) _
  · intro c hc
    obtain rfl : 't' = c := Option.some.inj (hlast.symm.trans hc)
    decide

/-- A query for columns is read with the words that are taken for them, without an ordering and
without a limit; a condition that it may be read with is not interpreted. -/
theorem parse_selectionText {name : String} {names : List String} (hname : IsOrdinary name)
    (hnames : ∀ n ∈ names, IsOrdinary n) :
    ∃ filter, (filter = none ∨ ∃ clause, filter = some (.uninterpreted clause)) ∧
      parse (selectionText (name :: names)) = .ok (some ⟨some ((loweredChars name ::
        wordsAfter (names.map loweredChars)).map String.ofList), filter, none, none⟩) := by
  have hx := hname.isAsciiWord
  have hys : ∀ y ∈ names.map loweredChars, IsAsciiWord y := by
    intro y hy
    obtain ⟨n, hn, rfl⟩ := List.mem_map.1 hy
    exact (hnames n hn).isAsciiWord
  have hnormal := normalize_selectionText hname hnames
  generalize names.map loweredChars = ys at hnormal hys ⊢
  generalize loweredChars name = x at hnormal hx ⊢
  have hquery : isQuery (selectionText (name :: names)) = true := by
    rw [isQuery, hnormal, occurs_eq_true_iff]
    exact (List.prefix_append selectWord _).isInfix
  refine ⟨(condition (listText x ys)).map filterOf, ?_, ?_⟩
  · cases hcondition : condition (listText x ys) with
    | none => exact Or.inl rfl
    | some clause =>
      have hmem : ∀ c ∈ clause, c ∈ listText x ys := fun c hc =>
        (condition_isInfix hcondition).mem hc
      have hsign : '=' ∉ clause := fun h =>
        notMem_listText hx hys (by decide) (by decide) (by decide) (hmem _ h)
      have hquote : ∀ c ∈ clause, isQuote c = false := by
        intro c hc
        rw [isQuote, Bool.or_eq_false_iff, decide_eq_false_iff_not, decide_eq_false_iff_not]
        constructor <;> rintro rfl <;>
          exact notMem_listText hx hys (by decide) (by decide) (by decide) (hmem _ hc)
      exact Or.inr ⟨_, congrArg some (filterOf_of_no_quote hsign hquote)⟩
  · rw [parse, if_pos hquery, hnormal, parseNormal, selected_listText hx hys,
      Option.bind_some, projectionOf_columnPart hx hys, ordering, limitDigits,
      findFirst_listText clauseSearch_ordering (by decide) hx hys,
      findFirst_listText clauseSearch_limit (by decide) hx hys]
    rfl

def returnedAfter (headers : List String) : List String → List String
  | [] => []
  | name :: names =>
    if StartsWithFrom name then headers.take 1 else name :: returnedAfter headers names

def returned (headers : List String) : List String → List String
  | [] => []
  | name :: names => name :: returnedAfter headers names

theorem returnedAfter_eq_self_iff {headers names : List String} :
    returnedAfter headers names = names ↔ ∀ i name, names[i]? = some name → StartsWithFrom name →
      i + 1 = names.length ∧ headers.head? = some name := by
  induction names with
  | nil => simp [returnedAfter]
  | cons name names ih =>
    rw [returnedAfter]
    by_cases hfrom : StartsWithFrom name
    · rw [if_pos hfrom]
      have htake : headers.take 1 = name :: names ↔ names = [] ∧ headers.head? = some name := by
        cases headers with
        | nil => simp
        | cons header headers =>
          simp only [List.take_succ_cons, List.take_zero, List.cons.injEq, List.head?_cons,
            Option.some.injEq]
          exact ⟨fun ⟨h, h'⟩ => ⟨h'.symm, h⟩, fun ⟨h, h'⟩ => ⟨h', h.symm⟩⟩
      rw [htake]
      constructor
      · rintro ⟨rfl, hhead⟩ i n hi -
        obtain ⟨hlt, rfl⟩ := List.getElem?_eq_some_iff.1 hi
        obtain rfl : i = 0 := by simpa using hlt
        exact ⟨rfl, hhead⟩
      · intro h
        obtain ⟨hlength, hhead⟩ := h 0 name rfl hfrom
        exact ⟨List.length_eq_zero_iff.1 (by simpa using hlength.symm), hhead⟩
    · rw [if_neg hfrom, List.cons.injEq, ih]
      constructor
      · rintro ⟨-, h⟩ i n hi hn
        cases i with
        | zero => exact absurd (Option.some.inj hi ▸ hn) hfrom
        | succ i =>
          obtain ⟨hlength, hhead⟩ := h i n hi hn
          exact ⟨congrArg (· + 1) hlength, hhead⟩
      · intro h
        refine ⟨rfl, fun i n hi hn => ?_⟩
        obtain ⟨hlength, hhead⟩ := h (i + 1) n hi hn
        exact ⟨Nat.succ.inj hlength, hhead⟩

theorem returned_eq_self_iff {headers names : List String} :
    returned headers names = names ↔ ∀ i name, 0 < i → names[i]? = some name →
      StartsWithFrom name → i + 1 = names.length ∧ headers.head? = some name := by
  cases names with
  | nil => simp [returned]
  | cons first names =>
    rw [returned, List.cons.injEq, returnedAfter_eq_self_iff]
    constructor
    · rintro ⟨-, h⟩ i name hpos hi hname
      obtain ⟨i, rfl⟩ := Nat.exists_eq_succ_of_ne_zero (Nat.ne_of_gt hpos)
      obtain ⟨hlength, hhead⟩ := h i name hi hname
      exact ⟨congrArg (· + 1) hlength, hhead⟩
    · intro h
      refine ⟨rfl, fun i name hi hname => ?_⟩
      obtain ⟨hlength, hhead⟩ := h (i + 1) name (Nat.succ_pos i) hi hname
      exact ⟨Nat.succ.inj hlength, hhead⟩

theorem selection_inj {t : Table} {names names' : List String} :
    selection t names = selection t names' ↔ names = names' :=
  ⟨fun h => (Answer.mk.inj h).1, fun h => h ▸ rfl⟩

section Resolving

variable {headers : List String}

/-- A header means its own column. -/
theorem index_resolve_header (h : HasOrdinaryHeaders headers) {name : String}
    (hname : name ∈ headers) :
    (resolve headers (String.ofList (loweredChars name))).index = headers.idxOf name := by
  have hlt : headers.idxOf name < headers.length := List.idxOf_lt_length_iff.2 hname
  have hget : headers[headers.idxOf name] = name := List.getElem_idxOf hlt
  have hfind : headers.findIdx? (fun header => lower header == lower (lower name)) =
      some (headers.idxOf name) := by
    rw [List.findIdx?_eq_some_iff_getElem]
    refine ⟨hlt, by rw [hget, lower_lower, beq_self_eq_true], fun j hj hequal => ?_⟩
    have hj' : j < headers.length := hj.trans hlt
    rw [beq_iff_eq, lower_lower] at hequal
    have hsame : headers[j] = headers[headers.idxOf name] := by
      rw [hget]
      exact List.inj_on_of_nodup_map h.nodup (List.getElem_mem hj') hname hequal
    exact absurd ((List.Nodup.of_map lower h.nodup).getElem_inj_iff.1 hsame) (Nat.ne_of_lt hj)
  rw [← (h.isOrdinary name hname).lower_eq, resolve, hfind]
  rfl

theorem index_resolve_nil (h : HasOrdinaryHeaders headers) :
    (resolve headers (String.ofList [])).index = 0 := by
  rw [resolve_of_not_isHeader]
  · rfl
  · rintro ⟨header, hheader, hequal⟩
    have hord := h.isOrdinary header hheader
    apply hord.isAsciiWord.ne_nil
    rw [hord.lower_eq] at hequal
    exact (String.ofList_injective hequal)

theorem index_resolve_wordsAfter (h : HasOrdinaryHeaders headers) {names : List String}
    (hnames : ∀ name ∈ names, name ∈ headers) :
    (wordsAfter (names.map loweredChars)).map
      (fun word => (resolve headers (String.ofList word)).index) =
        (returnedAfter headers names).map headers.idxOf := by
  induction names with
  | nil => rfl
  | cons name names ih =>
    obtain ⟨hname, hnames⟩ := List.forall_mem_cons.1 hnames
    rw [List.map_cons, wordsAfter, returnedAfter]
    by_cases hfrom : StartsWithFrom name
    · have hword : fromWord <+: loweredChars name := hfrom
      rw [if_pos hword, if_pos hfrom, List.map_singleton, index_resolve_nil h]
      cases headers with
      | nil => exact absurd hname List.not_mem_nil
      | cons header headers => simp
    · have hword : ¬ fromWord <+: loweredChars name := hfrom
      rw [if_neg hword, if_neg hfrom, List.map_cons, List.map_cons, index_resolve_header h hname,
        ih hnames]

theorem mem_of_mem_returnedAfter {names : List String} (hnames : ∀ name ∈ names, name ∈ headers) :
    ∀ name ∈ returnedAfter headers names, name ∈ headers := by
  induction names with
  | nil => simp [returnedAfter]
  | cons name names ih =>
    obtain ⟨hname, hnames⟩ := List.forall_mem_cons.1 hnames
    rw [returnedAfter]
    split
    · exact fun _ => List.mem_of_mem_take
    · exact List.forall_mem_cons.2 ⟨hname, ih hnames⟩

end Resolving

/-- An answer to a query that neither filters, sorts nor limits the rows. -/
theorem answer_of_projection {t : Table} {words columns : List String} {filter : Option Filter}
    (hne : t.headers ≠ [])
    (hfilter : filter = none ∨ ∃ clause, filter = some (.uninterpreted clause))
    (hindex : words.map (fun word => (resolve t.headers word).index) =
      columns.map t.headers.idxOf) (hcolumns : ∀ name ∈ columns, name ∈ t.headers) :
    answer false t ⟨some words, filter, none, none⟩ = .ok (selection t columns) := by
  obtain ⟨p, hplan⟩ := exists_plan hne ⟨some words, filter, none, none⟩
  obtain ⟨hprojection, hpfilter, hsort, hshown⟩ := plan_eq_ok hplan
  have hrows : filterRows filter p.filter t.rows = t.rows := by
    rcases hfilter with rfl | ⟨clause, rfl⟩ <;> rfl
  have hindices : p.projection.map Resolution.index = columns.map t.headers.idxOf := by
    rw [hprojection, resolveProjection, List.map_map]
    exact hindex
  have hheaders : p.columns = columns := by
    apply List.map_injective_iff.2 (fun _ _ => Option.some.inj)
    calc p.columns.map some
        = (p.projection.map Resolution.index).map fun i => t.headers[i]? := by
          rw [← hshown, List.map_map]
          rfl
      _ = columns.map some := by
          rw [hindices, List.map_map]
          refine List.map_congr_left fun name hname => ?_
          exact List.getElem?_idxOf (hcolumns name hname)
  have hproject : project p.projection =
      fun row => columns.map fun name => cellAt row (t.headers.idxOf name) := by
    funext row
    calc project p.projection row
        = (p.projection.map Resolution.index).map (cellAt row) := by
          rw [project, List.map_map]
          rfl
      _ = columns.map fun name => cellAt row (t.headers.idxOf name) := by
          rw [hindices, List.map_map]
          rfl
  rw [answer_of_orderRows hplan, hsort]
  simp only [orderRows, limitRows, hrows, Except.map, hheaders, selection, hproject]

theorem evaluate_eq_selection {t : Table} {names : List String} (hne : names ≠ [])
    (hheaders : HasOrdinaryHeaders t.headers) (hnames : ∀ name ∈ names, name ∈ t.headers) :
    evaluate false t (selectionText names) = .ok (selection t (returned t.headers names)) := by
  obtain ⟨first, names, rfl⟩ := List.exists_cons_of_ne_nil hne
  obtain ⟨hfirst, hnames⟩ := List.forall_mem_cons.1 hnames
  obtain ⟨filter, hfilter, hparse⟩ := parse_selectionText (hheaders.isOrdinary first hfirst)
    fun name hname => hheaders.isOrdinary name (hnames name hname)
  rw [evaluate_of_parse_some hparse]
  apply answer_of_projection (List.ne_nil_of_mem hfirst) hfilter
  · rw [List.map_map, List.map_cons, returned, List.map_cons]
    exact congrArg₂ List.cons (index_resolve_header hheaders hfirst)
      (index_resolve_wordsAfter hheaders hnames)
  · exact List.forall_mem_cons.2 ⟨hfirst, mem_of_mem_returnedAfter hnames⟩

/-- A query for headers of a table returns the columns up to the first name behind another that
starts with `from`, in place of which the first column is returned. These are the columns asked for
exactly if there is no such name, or it is the last one and the first header. -/
theorem evaluate_selectionText {t : Table} {names : List String}
    (hheaders : HasOrdinaryHeaders t.headers) (hne : names ≠ [])
    (hnames : ∀ name ∈ names, name ∈ t.headers) :
    evaluate false t (selectionText names) = .ok (selection t (returned t.headers names)) ∧
      (evaluate false t (selectionText names) = .ok (selection t names) ↔
        ∀ i name, 0 < i → names[i]? = some name → StartsWithFrom name →
          i + 1 = names.length ∧ t.headers.head? = some name) := by
  have hanswer := evaluate_eq_selection hne hheaders hnames
  refine ⟨hanswer, ?_⟩
  rw [hanswer, Except.ok.injEq, selection_inj, returned_eq_self_iff]

def journeysCsv : String :=
  "From_Date,nowhere,Id,liked\n2020,x,1,a\n2021,y,2,b\n"

def journeys : Table where
  headers := ["From_Date", "nowhere", "Id", "liked"]
  rows := [[some "2020", some "x", some "1", some "a"], [some "2021", some "y", some "2", some "b"]]

/-- Two columns, one of them twice, are asked for in front of the first header. -/
theorem evaluate_selectionText_last :
    Csv.parse journeysCsv = .ok journeys ∧
      evaluate false journeys "SELECT liked, nowhere, liked, From_Date FROM t" =
        .ok ⟨["liked", "nowhere", "liked", "From_Date"],
          [["a", "x", "a", "2020"], ["b", "y", "b", "2021"]]⟩ := by
  let names := ["liked", "nowhere", "liked", "From_Date"]
  have hheaders : HasOrdinaryHeaders journeys.headers := by decide +kernel
  have hnames : ∀ name ∈ names, name ∈ journeys.headers := by decide
  have hlast : ∀ i name, 0 < i → names[i]? = some name → StartsWithFrom name →
      i + 1 = names.length ∧ journeys.headers.head? = some name := by
    have hall : ∀ i : Fin 4, 0 < i.val → StartsWithFrom names[i] →
        i.val + 1 = 4 ∧ journeys.headers.head? = some names[i] := by decide +kernel
    intro i name hpos hname hfrom
    obtain ⟨hlt, rfl⟩ := List.getElem?_eq_some_iff.1 hname
    exact hall ⟨i, hlt⟩ hpos hfrom
  have htext : selectionText names = "SELECT liked, nowhere, liked, From_Date FROM t" := by
    decide +kernel
  have hanswer : selection journeys names = ⟨["liked", "nowhere", "liked", "From_Date"],
      [["a", "x", "a", "2020"], ["b", "y", "b", "2021"]]⟩ := by
    decide +kernel
  have heval := (evaluate_selectionText hheaders (by decide) hnames).2.2 hlast
  rw [htext, hanswer] at heval
  exact ⟨by decide +kernel, heval⟩

def visits : Table where
  headers := ["id", "from_date"]
  rows := [[some "1", some "2020"]]

/-- The first column is returned in place of the second. -/
theorem not_selection_from :
    Csv.parse "id,from_date\n1,2020\n" = .ok visits ∧ HasOrdinaryHeaders visits.headers ∧
      evaluate false visits (selectionText ["id", "from_date"]) =
        .ok ⟨["id", "id"], [["1", "1"]]⟩ ∧
      evaluate false visits (selectionText ["id", "from_date"]) ≠
        .ok (selection visits ["id", "from_date"]) := by
  have hheaders : HasOrdinaryHeaders visits.headers := by decide +kernel
  have hanswer : evaluate false visits (selectionText ["id", "from_date"]) =
      .ok ⟨["id", "id"], [["1", "1"]]⟩ := by decide +kernel
  refine ⟨by decide +kernel, hheaders, hanswer, ?_⟩
  rw [hanswer]
  decide +kernel

end TableTalk.Query

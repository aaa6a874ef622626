import Mathlib
import TableTalk.Text.Utf8

/-!
# UTF-8 read back

The bytes of a row of characters are valid and decode to the same characters.
-/

namespace TableTalk.Text

/-- A byte that follows the first one of a sequence carries six bits. -/
theorem toNat_tail (n : Nat) : (UInt8.ofNat (0x80 + n % 64)).toNat = 0x80 + n % 64 := by
  rw [UInt8.toNat_ofNat']
  omega

theorem takeTail_first {low high n : Nat} (hlow : low ≤ 0x80 + n % 64)
    (hhigh : 0x80 + n % 64 ≤ high) (value count : Nat) (rest : List UInt8) :
    takeTail low high value (count + 1) (UInt8.ofNat (0x80 + n % 64) :: rest) =
      takeTail 0x80 0xBF (value * 64 + n % 64) count rest := by
  rw [takeTail, toNat_tail, if_pos ⟨hlow, hhigh⟩, Nat.add_sub_cancel_left]

theorem takeTail_further (value count n : Nat) (rest : List UInt8) :
    takeTail 0x80 0xBF value (count + 1) (UInt8.ofNat (0x80 + n % 64) :: rest) =
      takeTail 0x80 0xBF (value * 64 + n % 64) count rest :=
  takeTail_first (by omega) (by omega) value count rest

theorem takeUtf8_lead {lead count low high value : Nat} (hlead : 0x80 ≤ lead) (hbyte : lead < 256)
    (h : utf8Lead? lead = some (count, low, high, value)) (rest : List UInt8) :
    takeUtf8 (UInt8.ofNat lead) rest =
      ((takeTail low high value count rest).1.map Char.ofNat,
        (takeTail low high value count rest).2) := by
  have hnat : (UInt8.ofNat lead).toNat = lead := by
    rw [UInt8.toNat_ofNat']
    omega
  rw [takeUtf8, hnat, if_neg (by omega), h]

theorem utf8Lead?_two {n : Nat} (hlow : 0x80 ≤ n) (hhigh : n < 0x800) :
    utf8Lead? (0xC0 + n / 64) = some (1, 0x80, 0xBF, n / 64) := by
  rw [utf8Lead?, if_pos (by omega), Nat.add_sub_cancel_left]

/-- The range of the second byte keeps out long forms of short sequences and the surrogates. -/
theorem utf8Lead?_three {n : Nat} (hlow : 0x800 ≤ n) (hhigh : n < 0x10000)
    (hvalid : n < 0xD800 ∨ 0xDFFF < n) :
    ∃ low high, utf8Lead? (0xE0 + n / 4096) = some (2, low, high, n / 4096) ∧
      low ≤ 0x80 + n / 64 % 64 ∧ 0x80 + n / 64 % 64 ≤ high := by
  rw [utf8Lead?, if_neg (by omega)]
  by_cases hfirst : n / 4096 = 0
  · rw [hfirst]
    exact ⟨0xA0, 0xBF, rfl, by omega, by omega⟩
  · rw [if_neg (by omega)]
    by_cases hsurrogates : n / 4096 = 0xD
    · rw [hsurrogates]
      exact ⟨0x80, 0x9F, rfl, by omega, by omega⟩
    · rw [if_neg (by omega), if_pos (by omega), Nat.add_sub_cancel_left]
      exact ⟨0x80, 0xBF, rfl, by omega, by omega⟩

theorem utf8Lead?_four {n : Nat} (hlow : 0x10000 ≤ n) (hhigh : n < 0x110000) :
    ∃ low high, utf8Lead? (0xF0 + n / 262144) = some (3, low, high, n / 262144) ∧
      low ≤ 0x80 + n / 4096 % 64 ∧ 0x80 + n / 4096 % 64 ≤ high := by
  rw [utf8Lead?, if_neg (by omega), if_neg (by omega), if_neg (by omega), if_neg (by omega)]
  by_cases hfirst : n / 262144 = 0
  · rw [hfirst]
    exact ⟨0x90, 0xBF, rfl, by omega, by omega⟩
  · rw [if_neg (by omega)]
    by_cases hlast : n / 262144 = 4
    · rw [hlast]
      exact ⟨0x80, 0x8F, rfl, by omega, by omega⟩
    · rw [if_pos (by omega), Nat.add_sub_cancel_left]
      exact ⟨0x80, 0xBF, rfl, by omega, by omega⟩

theorem takeUtf8_encodeChar (c : Char) : ∃ b tail, encodeChar c = b :: tail ∧
    ∀ rest, takeUtf8 b (tail ++ rest) = (some c, rest) := by
  have hvalid : c.toNat < 0xD800 ∨ 0xDFFF < c.toNat ∧ c.toNat < 0x110000 := c.valid
  rw [encodeChar]
  by_cases hone : c.toNat < 0x80
  · refine ⟨_, _, if_pos hone, fun rest => ?_⟩
    have hbyte : (UInt8.ofNat c.toNat).toNat = c.toNat := by
      rw [UInt8.toNat_ofNat']
      omega
    rw [takeUtf8, hbyte, if_pos hone, Char.ofNat_toNat]
    rfl
  rw [if_neg hone]
  by_cases htwo : c.toNat < 0x800
  · refine ⟨_, _, if_pos htwo, fun rest => ?_⟩
    have hvalue : c.toNat / 64 * 64 + c.toNat / 1 % 64 = c.toNat := by omega
    rw [takeUtf8_lead (by omega) (by omega) (utf8Lead?_two (by omega) htwo), List.cons_append,
      takeTail_further, takeTail, hvalue, Option.map_some, Char.ofNat_toNat]
    rfl
  rw [if_neg htwo]
  by_cases hthree : c.toNat < 0x10000
  · refine ⟨_, _, if_pos hthree, fun rest => ?_⟩
    obtain ⟨low, high, hlead, hlow, hhigh⟩ :=
      utf8Lead?_three (n := c.toNat) (by omega) hthree (by omega)
    have hvalue : (c.toNat / 4096 * 64 + c.toNat / 64 % 64) * 64 + c.toNat / 1 % 64 = c.toNat := by
      omega
    rw [takeUtf8_lead (by omega) (by omega) hlead, List.cons_append, List.cons_append,
      takeTail_first hlow hhigh, takeTail_further, takeTail, hvalue, Option.map_some,
      Char.ofNat_toNat]
    rfl
  · refine ⟨_, _, if_neg hthree, fun rest => ?_⟩
    obtain ⟨low, high, hlead, hlow, hhigh⟩ := utf8Lead?_four (n := c.toNat) (by omega) (by omega)
    have hvalue : ((c.toNat / 262144 * 64 + c.toNat / 4096 % 64) * 64 + c.toNat / 64 % 64) * 64 +
        c.toNat / 1 % 64 = c.toNat := by
      omega
    rw [takeUtf8_lead (by omega) (by omega) hlead, List.cons_append, List.cons_append,
      List.cons_append, takeTail_first hlow hhigh, takeTail_further, takeTail_further, takeTail,
      hvalue, Option.map_some, Char.ofNat_toNat]
    rfl

theorem utf8Chars_encodeUtf8 (cs : List Char) : utf8Chars (encodeUtf8 cs) = cs.map some := by
  induction cs with
  | nil => rw [encodeUtf8, List.flatMap_nil, utf8Chars, List.map_nil]
  | cons c rest ih =>
    obtain ⟨b, tail, hbytes, htake⟩ := takeUtf8_encodeChar c
    rw [encodeUtf8, List.flatMap_cons, hbytes, List.cons_append, utf8Chars, htake, List.map_cons]
    exact congrArg (some c :: ·) ih

theorem decodeUtf8?_encodeUtf8 (cs : List Char) : decodeUtf8? (encodeUtf8 cs) = some cs := by
  rw [decodeUtf8?, utf8Chars_encodeUtf8]
  induction cs with
  | nil => rfl
  | cons c rest ih =>
    rw [List.map_cons, List.mapM_cons, ih]
    rfl

theorem encodeUtf8_append (a b : List Char) :
    encodeUtf8 (a ++ b) = encodeUtf8 a ++ encodeUtf8 b :=
  List.flatMap_append

theorem decodeUtf8Lossy_encodeUtf8 (cs : List Char) : decodeUtf8Lossy (encodeUtf8 cs) = cs := by
  rw [decodeUtf8Lossy, utf8Chars_encodeUtf8, List.map_map]
  exact List.map_id cs

def markChar : Char := '\uFEFF'

def unmarked (cs : List Char) : List Char :=
  if cs.head? = some markChar then cs.drop 1 else cs

theorem unmarked_subset (cs : List Char) : unmarked cs ⊆ cs := by
  rw [unmarked]
  split
  · exact List.drop_subset 1 cs
  · exact List.Subset.refl cs

theorem encodeUtf8_mark (cs : List Char) :
    encodeUtf8 (markChar :: cs) = byteOrderMark ++ encodeUtf8 cs := by
  rw [encodeUtf8, List.flatMap_cons]
  rfl

/-- The bytes that a text starts with are those of the mark only if the text starts with it. -/
theorem head?_of_byteOrderMark {cs : List Char} (h : byteOrderMark <+: encodeUtf8 cs) :
    cs.head? = some markChar := by
  obtain ⟨rest, hrest⟩ := h
  have hchars : utf8Chars (byteOrderMark ++ rest) = some markChar :: utf8Chars rest := by
    obtain ⟨b, tail, hbytes, htake⟩ := takeUtf8_encodeChar markChar
    obtain ⟨rfl, rfl⟩ : 0xEF = b ∧ [0xBB, 0xBF] = tail := List.cons.inj hbytes
    have hmark : byteOrderMark ++ rest = 0xEF :: ([0xBB, 0xBF] ++ rest) := rfl
    rw [hmark, utf8Chars, htake]
  rw [hrest, utf8Chars_encodeUtf8] at hchars
  cases cs with
  | nil => cases hchars
  | cons c cs => exact (List.cons.inj hchars).1

theorem dropMark_encodeUtf8 (cs : List Char) :
    dropMark (encodeUtf8 cs) = encodeUtf8 (unmarked cs) := by
  by_cases h : cs.head? = some markChar
  · obtain ⟨rest, rfl⟩ := List.head?_eq_some_iff.1 h
    have hdrop : (byteOrderMark ++ encodeUtf8 rest).drop 3 = encodeUtf8 rest := rfl
    rw [unmarked, if_pos h, encodeUtf8_mark, dropMark, if_pos, hdrop]
    · rfl
    · exact List.isPrefixOf_iff_prefix.2 (List.prefix_append _ _)
  · rw [unmarked, if_neg h, dropMark, if_neg]
    exact fun hprefix => h (head?_of_byteOrderMark (List.isPrefixOf_iff_prefix.1 hprefix))

theorem unifyNewlines_eq_self {cs : List Char} (h : '\r' ∉ cs) : unifyNewlines cs = cs := by
  induction cs with
  | nil => rfl
  | cons c rest ih =>
    have hc : c ≠ '\r' := fun hc => h (hc ▸ List.mem_cons_self)
    rw [unifyNewlines, ih fun hmem => h (List.mem_cons_of_mem c hmem)]
    · rintro rest' rfl -
      exact hc rfl
    · exact hc

end TableTalk.Text

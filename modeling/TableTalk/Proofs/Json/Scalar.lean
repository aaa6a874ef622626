import TableTalk.Json.Reader
import TableTalk.Json.Writer
import TableTalk.Proofs.Double.Layout
import TableTalk.Proofs.Text.Search

/-!
# Numbers and texts read back

What is written for a number or for a text is read as that number or that text, whatever follows.
-/

namespace TableTalk.Json

open Double Text

def Ends (rest : List Char) : Prop :=
  ∀ c ∈ rest.head?, c.isDigit = false ∧ c ≠ '.' ∧ c ≠ 'e' ∧ c ≠ 'E'

def signChars (negative : Bool) : List Char :=
  if negative then ['-'] else []

def numberOf (negative : Bool) (whole more : List Char) : Step Json :=
  let (fraction, rest) := takeFraction more
  let (exponent, rest) := takeExponent Char.isDigit rest
  if fraction.isEmpty && exponent.isNone then
    if whole.length ≤ Text.digitLimit then
      let n : Int := Text.numeral whole
      .ok (.int (if negative then -n else n), rest)
    else .error (.hugeInteger whole.length)
  else .ok (.float (Numeral.value negative ⟨whole, fraction, exponent⟩), rest)

theorem readNumber_append {whole more : List Char} (hwhole : IsWhole whole)
    (hmore : ∀ c ∈ more.head?, c.isDigit = false) (negative : Bool) :
    readNumber (signChars negative ++ (whole ++ more)) = numberOf negative whole more := by
  cases whole with
  | nil => exact absurd rfl hwhole.ne_nil
  | cons d ds =>
    have hd : d.isDigit = true := hwhole.isDigit d List.mem_cons_self
    have hminus : d ≠ '-' := by
      rintro rfl
      cases hd
    have htake : (d :: (ds ++ more)).takeWhile Char.isDigit = d :: ds :=
      takeWhile_append_of_head hwhole.isDigit hmore
    have hdrop : (d :: (ds ++ more)).dropWhile Char.isDigit = more :=
      dropWhile_append_of_head hwhole.isDigit hmore
    by_cases hzero : d = '0'
    · subst hzero
      have hds : ds = [] := List.tail_eq_of_cons_eq (hwhole.lead rfl)
      subst hds
      cases negative <;> rfl
    · cases negative with
      | true => simp [readNumber, numberOf, signChars, hzero, htake, hdrop]
      | false => simp [readNumber, numberOf, signChars, hzero, hminus, htake, hdrop]

theorem takeFraction_append {fraction more : List Char}
    (hfraction : ∀ c ∈ fraction, c.isDigit = true)
    (hmore : ∀ c ∈ more.head?, c.isDigit = false ∧ c ≠ '.') :
    takeFraction (fractionChars fraction ++ more) = (fraction, more) := by
  cases fraction with
  | nil =>
    cases more with
    | nil => rfl
    | cons c more =>
      have hpoint : c ≠ '.' := (hmore c rfl).2
      simp [fractionChars, takeFraction, hpoint]
  | cons d ds =>
    have hd : d.isDigit = true := hfraction d List.mem_cons_self
    have hend : ∀ c ∈ more.head?, c.isDigit = false := fun c hc => (hmore c hc).1
    have htake : (d :: (ds ++ more)).takeWhile Char.isDigit = d :: ds :=
      takeWhile_append_of_head hfraction hend
    have hdrop : (d :: (ds ++ more)).dropWhile Char.isDigit = more :=
      dropWhile_append_of_head hfraction hend
    simp [fractionChars, takeFraction, hd, htake, hdrop]

theorem takeExponent_none {rest : List Char} (hrest : Ends rest) :
    takeExponent Char.isDigit rest = (none, rest) := by
  cases rest with
  | nil => rfl
  | cons c rest =>
    obtain ⟨-, -, hsmall, hlarge⟩ := hrest c rfl
    simp [takeExponent, hsmall, hlarge]

theorem takeExponent_append {digits rest : List Char} (hne : digits ≠ [])
    (hdigits : ∀ c ∈ digits, c.isDigit = true) (hrest : Ends rest) (negative : Bool) :
    takeExponent Char.isDigit (exponentChars (some (negative, digits)) ++ rest) =
      (some (negative, digits), rest) := by
  have hend : ∀ c ∈ rest.head?, c.isDigit = false := fun c hc => (hrest c hc).1
  cases digits with
  | nil => exact absurd rfl hne
  | cons d ds =>
    have htake : (d :: (ds ++ rest)).takeWhile Char.isDigit = d :: ds :=
      takeWhile_append_of_head hdigits hend
    have hdrop : (d :: (ds ++ rest)).dropWhile Char.isDigit = rest :=
      dropWhile_append_of_head hdigits hend
    cases negative <;> simp [exponentChars, takeExponent, takeSign, htake, hdrop]

theorem readNumber_whole {whole rest : List Char} (hwhole : IsWhole whole)
    (hlength : whole.length ≤ digitLimit) (hrest : Ends rest) (negative : Bool) :
    readNumber (signChars negative ++ (whole ++ rest)) =
      .ok (.int (if negative then -(numeral whole : Int) else numeral whole), rest) := by
  have hend : ∀ c ∈ rest.head?, c.isDigit = false ∧ c ≠ '.' := fun c hc =>
    ⟨(hrest c hc).1, (hrest c hc).2.1⟩
  have hfraction : takeFraction rest = ([], rest) :=
    takeFraction_append (fun _ hc => absurd hc List.not_mem_nil) hend
  rw [readNumber_append hwhole fun c hc => (hrest c hc).1, numberOf, hfraction]
  dsimp only
  rw [takeExponent_none hrest]
  exact if_pos hlength

theorem takeExponent_float {n : Numeral} (h : n.IsFloat) {rest : List Char} (hrest : Ends rest) :
    takeExponent Char.isDigit (exponentChars n.exponent ++ rest) = (n.exponent, rest) := by
  cases hn : n.exponent with
  | none => exact takeExponent_none hrest
  | some e =>
    obtain ⟨negative, digits⟩ := e
    obtain ⟨hne, hdigits⟩ := h.exponent _ hn
    exact takeExponent_append hne hdigits hrest negative

theorem head?_exponentChars_append {rest : List Char} (hrest : Ends rest)
    (exponent : Option (Bool × List Char)) :
    ∀ c ∈ (exponentChars exponent ++ rest).head?, c.isDigit = false ∧ c ≠ '.' := by
  intro c hc
  cases exponent with
  | none => exact ⟨(hrest c hc).1, (hrest c hc).2.1⟩
  | some e =>
    cases hc
    exact ⟨rfl, by decide⟩

theorem readNumber_float {n : Numeral} (h : n.IsFloat) {rest : List Char} (hrest : Ends rest)
    (negative : Bool) :
    readNumber (signChars negative ++ (n.chars ++ rest)) =
      .ok (.float (n.value negative), rest) := by
  have hend := head?_exponentChars_append hrest n.exponent
  have hpoint : ∀ c ∈ (fractionChars n.fraction ++ (exponentChars n.exponent ++ rest)).head?,
      c.isDigit = false := by
    intro c hc
    by_cases hn : n.fraction = []
    · rw [fractionChars, if_pos hn] at hc
      exact (hend c hc).1
    · rw [fractionChars, if_neg hn] at hc
      cases hc
      rfl
  rw [Numeral.chars, List.append_assoc, List.append_assoc, readNumber_append h.whole hpoint,
    numberOf, takeFraction_append h.fraction hend]
  dsimp only
  rw [takeExponent_float h hrest]
  dsimp only
  rw [if_neg]
  rw [Bool.and_eq_true, List.isEmpty_iff, Option.isNone_iff_eq_none]
  exact fun hnone => h.float.elim (absurd hnone.1) (absurd hnone.2)

def numberMarks : List Char := "+-.eNaInfity".toList

def IsNumberChar (c : Char) : Prop :=
  c.isDigit = true ∨ c ∈ numberMarks

theorem isNumberChar_of_mem_signChars {negative : Bool} :
    ∀ c ∈ signChars negative, IsNumberChar c := by
  cases negative with
  | false => exact fun _ hc => absurd hc List.not_mem_nil
  | true => exact List.forall_mem_singleton.2 (Or.inr (by decide))

theorem isNumberChar_of_mem_chars {n : Numeral} (h : n.IsFloat) :
    ∀ c ∈ n.chars, IsNumberChar c := by
  have hfraction : ∀ c ∈ fractionChars n.fraction, IsNumberChar c := by
    rw [fractionChars]
    split
    · exact fun _ hc => absurd hc List.not_mem_nil
    · exact List.forall_mem_cons.2 ⟨Or.inr (by decide), fun c hc => Or.inl (h.fraction c hc)⟩
  have hexponent : ∀ c ∈ exponentChars n.exponent, IsNumberChar c := by
    cases he : n.exponent with
    | none => exact fun _ hc => absurd hc List.not_mem_nil
    | some e =>
      refine List.forall_mem_cons.2 ⟨Or.inr (by decide), List.forall_mem_cons.2 ⟨?_, ?_⟩⟩
      · cases e.1 <;> exact Or.inr (by decide)
      · exact fun c hc => Or.inl ((h.exponent e he).2 c hc)
  rw [Numeral.chars, List.forall_mem_append, List.forall_mem_append]
  exact ⟨fun c hc => Or.inl (h.whole.isDigit c hc), hfraction, hexponent⟩

theorem writeChars_int (i : Int) :
    writeChars (.int i) = signChars (decide (i < 0)) ++ (Nat.repr i.natAbs).toList := by
  rw [writeChars]
  cases i with
  | ofNat n => rfl
  | negSucc n =>
    change ("-" ++ Nat.repr (n + 1)).toList = _
    rw [String.toList_append, decide_eq_true (Int.negSucc_lt_zero n)]
    rfl

theorem isNumberChar_of_mem_int {i : Int} : ∀ c ∈ writeChars (.int i), IsNumberChar c := by
  rw [writeChars_int, List.forall_mem_append]
  exact ⟨isNumberChar_of_mem_signChars, fun _ hc => Or.inl (isDigit_of_mem_repr hc)⟩

theorem writeDouble_finite (negative : Bool) (units : Nat) :
    writeDouble (.finite negative units) =
      signChars negative ++ (magnitudeText units).toList := by
  cases negative with
  | false => exact congrArg String.toList (String.empty_append (s := magnitudeText units))
  | true => exact String.toList_append

theorem isNumberChar_of_mem_float {d : Double} (h : d.IsValue) :
    ∀ c ∈ writeChars (.float d), IsNumberChar c := by
  rw [writeChars]
  cases d with
  | nan => exact fun c hc => Or.inr ((by decide : writeDouble .nan ⊆ numberMarks) hc)
  | infinite negative =>
    have hword : ∀ negative, writeDouble (.infinite negative) ⊆ numberMarks := by decide
    exact fun c hc => Or.inr (hword negative hc)
  | finite negative units =>
    obtain ⟨n, hfloat, htext, -⟩ := magnitudeText_spells h
    rw [writeDouble_finite, htext, List.forall_mem_append]
    exact ⟨isNumberChar_of_mem_signChars, isNumberChar_of_mem_chars hfloat⟩

theorem hexDigits_control {n : Nat} (h : n < 0x20) : ∃ a b c d, hexDigits 4 n = [a, b, c, d] ∧
    hexValue? a = some 0 ∧ hexValue? b = some 0 ∧ hexValue? c = some (n / 16) ∧
      hexValue? d = some (n % 16) := by
  have hvalues : ∀ n : Fin 0x20, hexValue? (hexDigit (n.val / 16 / 16 / 16 % 16)) = some 0 ∧
      hexValue? (hexDigit (n.val / 16 / 16 % 16)) = some 0 ∧
      hexValue? (hexDigit (n.val / 16 % 16)) = some (n.val / 16) ∧
      hexValue? (hexDigit (n.val % 16)) = some (n.val % 16) := by
    decide
  exact ⟨_, _, _, _, rfl, hvalues ⟨n, h⟩⟩

/-- A character is written as a letter behind a backslash, as the number of a control character or
as it stands. -/
theorem escapeChar_cases (c : Char) :
    (∃ letter, escapeChar c = ['\\', letter] ∧ shortEscape? letter = some c) ∨
      (c.toNat < 0x20 ∧ escapeChar c = '\\' :: 'u' :: hexDigits 4 c.toNat) ∨
        (escapeChar c = [c] ∧ 0x20 ≤ c.toNat ∧ c ≠ '"' ∧ c ≠ '\\') := by
  rw [escapeChar]
  iterate 7
    split
    · next h =>
      subst h
      exact Or.inl ⟨_, rfl, rfl⟩
  split
  · next h => exact Or.inr (Or.inl ⟨h, rfl⟩)
  · next hquote hslash _ _ _ _ _ h =>
    exact Or.inr (Or.inr ⟨rfl, Nat.le_of_not_lt h, hquote, hslash⟩)

theorem letter_of_shortEscape? {letter c : Char} (h : shortEscape? letter = some c) :
    0x20 ≤ letter.toNat ∧ letter ≠ 'u' := by
  rw [shortEscape?.eq_def] at h
  split at h <;> first | decide | cases h

theorem readUnits_escapeChar (opening : Nat) (c : Char) {more : List Char} (hmore : more ≠ []) :
    readUnits opening (escapeChar c ++ more) =
      (readUnits opening more).map fun (units, after) => (c.toNat :: units, after) := by
  rcases escapeChar_cases c with
    ⟨letter, hescape, hletter⟩ | ⟨hcontrol, hescape⟩ | ⟨hescape, hcontrol, hquote, hslash⟩
  · rw [hescape, List.cons_append, List.singleton_append, readUnits, hletter]
    rintro rfl
    exact (letter_of_shortEscape? hletter).2 rfl
  · obtain ⟨x, y, z, t, hdigits, hx, hy, hz, ht⟩ := hexDigits_control hcontrol
    have hunit : ((0 * 16 + 0) * 16 + c.toNat / 16) * 16 + c.toNat % 16 = c.toNat := by omega
    cases more with
    | nil => exact absurd rfl hmore
    | cons e more =>
      rw [hescape, hdigits]
      simp only [List.cons_append, List.nil_append, readUnits, hx, hy, hz, ht, hunit]
  · rw [hescape, List.singleton_append, readUnits, if_neg (Nat.not_lt_of_le hcontrol)]
    · exact hquote
    · exact fun _ hc _ => hslash hc
    · exact fun _ _ hc _ => hslash hc
    · exact fun hc _ => hslash hc

theorem readUnits_flatMap (opening : Nat) (cs rest : List Char) :
    readUnits opening (cs.flatMap escapeChar ++ '"' :: rest) = .ok (cs.map Char.toNat, rest) := by
  induction cs with
  | nil => rfl
  | cons c cs ih =>
    rw [List.flatMap_cons, List.append_assoc, readUnits_escapeChar opening c (by simp), ih]
    rfl

theorem charOf_toNat (c : Char) : charOf c.toNat = c := by
  have hvalid : c.toNat.isValidChar := c.valid
  rw [charOf, if_pos hvalid, Char.ofNat_toNat]

theorem isHighSurrogate_toNat (c : Char) : isHighSurrogate c.toNat = false := by
  have hvalid : c.toNat < 0xD800 ∨ 0xDFFF < c.toNat ∧ c.toNat < 0x110000 := c.valid
  rw [isHighSurrogate, Bool.and_eq_false_iff, decide_eq_false_iff_not, decide_eq_false_iff_not]
  omega

theorem joinUnits_map_toNat (cs : List Char) : joinUnits (cs.map Char.toNat) = cs := by
  induction cs with
  | nil => rfl
  | cons c cs ih =>
    cases cs with
    | nil => exact congrArg (fun c => [c]) (charOf_toNat c)
    | cons d cs =>
      rw [List.map_cons, List.map_cons, joinUnits, isHighSurrogate_toNat, Bool.false_and,
        if_neg Bool.false_ne_true, charOf_toNat, ← List.map_cons, ih]

theorem readText_flatMap (s : String) (rest : List Char) :
    readText (s.toList.flatMap escapeChar ++ '"' :: rest) = .ok (s, rest) := by
  rw [readText, readUnits_flatMap]
  simp only [Except.map, joinUnits_map_toNat, String.ofList_toList]

theorem writeText_append (s : String) (rest : List Char) :
    writeText s ++ rest = '"' :: (s.toList.flatMap escapeChar ++ '"' :: rest) := by
  rw [writeText]
  simp

end TableTalk.Json

import TableTalk.Calendar.Iso
import TableTalk.Proofs.Text.Numeral

/-!
# Moments that a clock shows

A moment that is read in the international notation is one that a clock can show: its day is in the
calendar and its time of day has not run over.
-/

namespace TableTalk

open Text

structure Moment.IsShown (m : Moment) : Prop where
  date : m.date.isValid = true
  hour : m.hour < 24
  minute : m.minute < 60
  second : m.second < 60
  micro : m.micro < Moment.microsPerSecond

instance (m : Moment) : Decidable m.IsShown :=
  decidable_of_iff (m.date.isValid = true ∧ m.hour < 24 ∧ m.minute < 60 ∧ m.second < 60 ∧
      m.micro < Moment.microsPerSecond)
    ⟨fun ⟨hdate, hhour, hminute, hsecond, hmicro⟩ => ⟨hdate, hhour, hminute, hsecond, hmicro⟩,
      fun h => ⟨h.date, h.hour, h.minute, h.second, h.micro⟩⟩

theorem Moment.IsShown.bounds {m : Moment} (h : m.IsShown) :
    m.date.year < 10 ^ 4 ∧ m.date.month < 10 ^ 2 ∧ m.date.day < 10 ^ 2 ∧ m.hour < 10 ^ 2 ∧
      m.minute < 10 ^ 2 ∧ m.second < 10 ^ 2 ∧ m.micro / 1000 < 10 ^ 3 := by
  obtain ⟨hdate, hhour, hminute, hsecond, hmicro⟩ := h
  simp only [Date.isValid, Bool.and_eq_true, decide_eq_true_eq] at hdate
  have hday : m.date.day ≤ 31 := by
    refine Nat.le_trans hdate.2 ?_
    rw [Date.daysInMonth]
    split_ifs <;> omega
  simp only [Moment.microsPerSecond] at hmicro
  omega

theorem takeNumber?_lt {count n : Nat} {cs rest : List Char}
    (h : takeNumber? count cs = some (n, rest)) : n < 10 ^ count := by
  rw [takeNumber?] at h
  split at h
  · next hdigits =>
    cases h
    exact Nat.lt_of_lt_of_eq (numeral_lt _) (congrArg (10 ^ ·) hdigits.1)
  · cases h

theorem microsPerSecond_pos : 0 < Moment.microsPerSecond := by
  decide

namespace Clock

/-- Fractions of a second are less than one. -/
theorem takeFraction?_lt {micro : Nat} {cs rest : List Char}
    (h : takeFraction? cs = some (micro, rest)) : micro < Moment.microsPerSecond := by
  rw [takeFraction?] at h
  obtain ⟨⟨n, more⟩, hnumber, hmicro⟩ := Option.bind_eq_some_iff.1 h
  have hn := takeNumber?_lt hnumber
  cases hmicro
  have hcount : 10 ^ min 6 cs.length * 10 ^ (6 - min 6 cs.length) = Moment.microsPerSecond := by
    rw [← pow_add, Nat.add_sub_cancel' (Nat.min_le_left 6 _)]
    rfl
  exact hcount ▸ Nat.mul_lt_mul_of_pos_right hn (Nat.pow_pos (by decide))

theorem fraction_lt {done : List Nat} {cs rest : List Char} {clock : Clock}
    (h : takeFields?.fraction done cs = some (clock, rest)) :
    clock.micro < Moment.microsPerSecond := by
  rw [takeFields?.fraction] at h
  obtain ⟨⟨micro, more⟩, hfraction, hclock⟩ := Option.bind_eq_some_iff.1 h
  cases hclock
  exact takeFraction?_lt hfraction

/-- A time ends on a whole second, with a fraction, or with what its further fields end with. -/
theorem takeFields?_cases {colons : Option Bool} {done : List Nat} {fields : Nat}
    {cs rest : List Char} {clock : Clock}
    (h : takeFields? colons done fields cs = some (clock, rest)) :
    clock.micro = 0 ∨ (∃ done cs, takeFields?.fraction done cs = some (clock, rest)) ∨
      ∃ colons done more cs, fields = more + 1 ∧
        takeFields? colons done more cs = some (clock, rest) := by
  unfold takeFields? at h
  obtain ⟨⟨n, left⟩, -, h⟩ := Option.bind_eq_some_iff.1 h
  dsimp only at h
  split at h
  · cases h
    exact Or.inl rfl
  · split at h
    · cases h
      exact Or.inl rfl
    · cases h
  · split at h
    · exact Or.inr (Or.inl ⟨_, _, h⟩)
    · cases fields with
      | zero =>
        obtain ⟨onward, -, h⟩ := Option.bind_eq_some_iff.1 h
        exact Or.inr (Or.inl ⟨_, _, h⟩)
      | succ more =>
        obtain ⟨onward, -, h⟩ := Option.bind_eq_some_iff.1 h
        exact Or.inr (Or.inr ⟨_, _, more, _, rfl, h⟩)

theorem takeFields?_lt {colons : Option Bool} {done : List Nat} {fields : Nat}
    {cs rest : List Char} {clock : Clock}
    (h : takeFields? colons done fields cs = some (clock, rest)) :
    clock.micro < Moment.microsPerSecond := by
  induction fields generalizing colons done cs with
  | zero =>
    rcases takeFields?_cases h with hzero | ⟨_, _, hfraction⟩ | ⟨_, _, more, _, hmore, -⟩
    · exact hzero ▸ microsPerSecond_pos
    · exact fraction_lt hfraction
    · cases hmore
  | succ fields ih =>
    rcases takeFields?_cases h with hzero | ⟨_, _, hfraction⟩ | ⟨_, _, more, _, hmore, hfields⟩
    · exact hzero ▸ microsPerSecond_pos
    · exact fraction_lt hfraction
    · cases hmore
      exact ih hfields

theorem ofIsoChars?_lt {cs : List Char} {clock : Clock} {offset : Option Int}
    (h : ofIsoChars? cs = some (clock, offset)) : clock.micro < Moment.microsPerSecond := by
  unfold ofIsoChars? at h
  obtain ⟨⟨found, left⟩, hfields, hmore⟩ := Option.bind_eq_some_iff.1 h
  have hlt := takeFields?_lt hfields
  dsimp only at hmore
  split at hmore
  · split at hmore
    · cases hmore
      exact hlt
    · cases hmore
  · cases hmore
    exact hlt
  · cases hmore
  · obtain ⟨⟨distance, left'⟩, -, hoffset⟩ := Option.bind_eq_some_iff.1 hmore
    dsimp only at hoffset
    split at hoffset
    · cases hoffset
      exact hlt
    · cases hoffset

end Clock

theorem Moment.isShown_of_ofIso? {s : String} {m : Moment} (h : Moment.ofIso? s = some m) :
    m.IsShown := by
  unfold Moment.ofIso? at h
  obtain ⟨date, -, hclock⟩ := Option.bind_eq_some_iff.1 h
  have hshown {clock : Clock} {offset : Option Int} (hmicro : clock.micro < microsPerSecond)
      (hm : (if date.isValid && clock.isValid then
        some ⟨date, clock.hour, clock.minute, clock.second, clock.micro, offset⟩ else none) =
          some m) : m.IsShown := by
    split at hm
    · next hvalid =>
      cases hm
      simp only [Clock.isValid, Bool.and_eq_true, decide_eq_true_eq] at hvalid
      exact ⟨hvalid.1, hvalid.2.1.1, hvalid.2.1.2, hvalid.2.2, hmicro⟩
    · cases hm
  dsimp only at hclock
  split at hclock
  · exact hshown microsPerSecond_pos hclock
  · obtain ⟨⟨clock, offset⟩, htime, hm⟩ := Option.bind_eq_some_iff.1 hclock
    exact hshown (Clock.ofIsoChars?_lt htime) hm

end TableTalk

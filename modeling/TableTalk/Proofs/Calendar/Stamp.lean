import TableTalk.Proofs.Calendar.Iso
import TableTalk.Proofs.Text.Search

/-!
# Reading a stamp back

A stamp has every number of a moment in a row of digits of a fixed width. Reading it gives the
moment cut to the millisecond.
-/

namespace TableTalk

open Text
open Double (padZeros)

structure IsRow (width n : Nat) (cs : List Char) : Prop where
  length : cs.length = width
  digits : ∀ c ∈ cs, c.isDigit = true
  denotes : numeral cs = n

theorem isRow_padZeros {width n : Nat} (hwidth : 0 < width) (h : n < 10 ^ width) :
    IsRow width n (padZeros width (toString n)).toList := by
  have hlength : (toString n).length ≤ width := (length_repr_le_iff hwidth).2 h
  have hnumeral : numeral (toString n).toList = n := numeral_repr n
  rw [padZeros, String.toList_append, String.toList_ofList]
  refine ⟨?_, fun c hc => ?_, ?_⟩
  · rw [List.length_append, List.length_replicate, String.length_toList]
    omega
  · rcases List.mem_append.1 hc with hc | hc
    · rw [List.eq_of_mem_replicate hc]
      rfl
    · exact isDigit_of_mem_repr hc
  · rw [numeral_append, numeral_replicate_zero, hnumeral, Nat.zero_mul, Nat.zero_add]

namespace IsRow

variable {width n n' : Nat} {cs : List Char}

theorem unique (h : IsRow width n cs) (h' : IsRow width n' cs) : n = n' :=
  h.denotes.symm.trans h'.denotes

theorem takeNumber?_append (h : IsRow width n cs) (rest : List Char) :
    takeNumber? width (cs ++ rest) = some (n, rest) := by
  have htake : (cs ++ rest).take width = cs := by
    rw [← h.length, List.take_left]
  have hdrop : (cs ++ rest).drop width = rest := by
    rw [← h.length, List.drop_left]
  have hnumber : cs.length = width ∧ cs.all Char.isDigit = true :=
    ⟨h.length, List.all_eq_true.2 h.digits⟩
  rw [takeNumber?, htake, if_pos hnumber, h.denotes, hdrop]

theorem takeNumber?_eq (h : IsRow width n cs) : takeNumber? width cs = some (n, []) := by
  have happend := h.takeNumber?_append []
  rwa [List.append_nil] at happend

theorem ne_nil (h : IsRow (width + 1) n cs) : cs ≠ [] := by
  rintro rfl
  exact absurd h.length (by simp)

theorem exists_cons (h : IsRow (width + 1) n cs) :
    ∃ c rest, cs = c :: rest ∧ c.isDigit = true := by
  cases cs with
  | nil => exact absurd h.length (by simp)
  | cons c rest => exact ⟨c, rest, rfl, h.digits c List.mem_cons_self⟩

end IsRow

namespace Clock

variable {n fields : Nat} {field more : List Char} {colons : Option Bool} {done : List Nat}

/-- A field before a colon, where fields are known to be parted by colons or not known not to be. -/
theorem takeFields?_colon (h : IsRow 2 n field) (hcolons : colons.getD true = true)
    (hmore : more ≠ []) : takeFields? colons done (fields + 1) (field ++ ':' :: more) =
      takeFields? (some true) (done ++ [n]) fields more := by
  obtain ⟨c, more, rfl⟩ := List.exists_cons_of_ne_nil hmore
  rw [takeFields?, h.takeNumber?_append]
  simp [hcolons]

theorem takeFields?_point (h : IsRow 2 n field) (hmore : more ≠ []) :
    takeFields? colons done fields (field ++ '.' :: more) =
      takeFields?.fraction (done ++ [n]) more := by
  obtain ⟨c, more, rfl⟩ := List.exists_cons_of_ne_nil hmore
  rw [takeFields?, h.takeNumber?_append]
  simp

theorem fraction_millis (h : IsRow 3 n field) :
    takeFields?.fraction done field = some (ofFields done (n * 1000), []) := by
  rw [takeFields?.fraction, takeFraction?, h.length]
  simp [h.takeNumber?_eq]

end Clock

/-- The moment cut to the millisecond, on a clock that does not tell its distance from
Greenwich. -/
def Moment.toMillis (m : Moment) : Moment :=
  { m with micro := m.micro / 1000 * 1000, offset := none }

structure StampRows (m : Moment) where
  year : List Char
  month : List Char
  day : List Char
  hour : List Char
  minute : List Char
  second : List Char
  millis : List Char
  isYear : IsRow 4 m.date.year year
  isMonth : IsRow 2 m.date.month month
  isDay : IsRow 2 m.date.day day
  isHour : IsRow 2 m.hour hour
  isMinute : IsRow 2 m.minute minute
  isSecond : IsRow 2 m.second second
  isMillis : IsRow 3 (m.micro / 1000) millis

namespace StampRows

variable {m : Moment} (r : StampRows m)

def date : List Char :=
  r.year ++ '-' :: (r.month ++ '-' :: r.day)

def clock : List Char :=
  r.hour ++ ':' :: (r.minute ++ ':' :: (r.second ++ '.' :: r.millis))

theorem length_date : r.date.length = 10 := by
  simp [date, r.isYear.length, r.isMonth.length, r.isDay.length]

theorem ofIsoChars?_date : Date.ofIsoChars? r.date = some m.date := by
  obtain ⟨c, rest, hmonth, hc⟩ := r.isMonth.exists_cons
  have hw : c ≠ 'W' := by
    rintro rfl
    cases hc
  have hhead : r.month ++ '-' :: r.day = c :: (rest ++ '-' :: r.day) := by
    rw [hmonth, List.cons_append]
  rw [Date.ofIsoChars?, date, r.isYear.takeNumber?_append]
  simp only [Option.bind_eq_bind, Option.bind_some]
  split
  · next heq =>
    rw [hhead] at heq
    exact absurd (List.cons.inj (List.cons.inj heq).2).1 hw
  · next heq => cases (List.cons.inj heq).1
  · next heq =>
    rw [← (List.cons.inj heq).2, r.isMonth.takeNumber?_append]
    simp [r.isDay.takeNumber?_eq]
  · next hno => exact absurd rfl (hno _)

theorem takeFields?_clock : Clock.takeFields? none [] 2 r.clock =
    some (⟨m.hour, m.minute, m.second, m.micro / 1000 * 1000⟩, []) := by
  rw [clock, Clock.takeFields?_colon r.isHour rfl (by simp),
    Clock.takeFields?_colon r.isMinute rfl (by simp),
    Clock.takeFields?_point r.isSecond r.isMillis.ne_nil, Clock.fraction_millis r.isMillis]
  rfl

theorem ofIsoChars?_clock : Clock.ofIsoChars? r.clock =
    some (⟨m.hour, m.minute, m.second, m.micro / 1000 * 1000⟩, none) := by
  have hchars : ∀ c ∈ r.clock, c.isDigit = true ∨ c = ':' ∨ c = '.' := by
    simp only [clock, List.mem_append, List.mem_cons]
    rintro c (hc | rfl | hc | rfl | hc | rfl | hc)
    · exact Or.inl (r.isHour.digits c hc)
    · exact Or.inr (Or.inl rfl)
    · exact Or.inl (r.isMinute.digits c hc)
    · exact Or.inr (Or.inl rfl)
    · exact Or.inl (r.isSecond.digits c hc)
    · exact Or.inr (Or.inr rfl)
    · exact Or.inl (r.isMillis.digits c hc)
  have hsign : ∀ c ∈ r.clock, (!(c = '+' || c = '-' || c = 'Z')) = true := by
    intro c hc
    rcases hchars c hc with hdigit | rfl | rfl
    · have hother {mark : Char} (hmark : mark.isDigit = false) : c ≠ mark := by
        rintro rfl
        cases hdigit.symm.trans hmark
      have hplus : c ≠ '+' := hother rfl
      have hminus : c ≠ '-' := hother rfl
      have hzone : c ≠ 'Z' := hother rfl
      simp [hplus, hminus, hzone]
    · rfl
    · rfl
  rw [Clock.ofIsoChars?]
  dsimp only
  rw [List.takeWhile_eq_self_iff.2 hsign, List.dropWhile_eq_nil_iff.2 hsign, r.takeFields?_clock]
  rfl

theorem ofIso?_eq (h : m.IsShown) :
    Moment.ofIso? (String.ofList (r.date ++ 'T' :: r.clock)) = some m.toMillis := by
  have hlength : Date.isoLength (r.date ++ 'T' :: r.clock) = 10 := by
    obtain ⟨c, rest, hmonth, hc⟩ := r.isMonth.exists_cons
    have hw : c ≠ 'W' := by
      rintro rfl
      cases hc
    have hlong : (r.date ++ 'T' :: r.clock).length ≠ 7 := by
      rw [List.length_append, r.length_date]
      omega
    have hdrop : (r.date ++ 'T' :: r.clock).drop 4 =
        '-' :: c :: (rest ++ '-' :: r.day ++ 'T' :: r.clock) := by
      rw [date, List.append_assoc, ← r.isYear.length, List.drop_left, hmonth]
      simp
    rw [Date.isoLength, if_neg hlong, hdrop]
    split
    · next heq => exact absurd (List.cons.inj (List.cons.inj heq).2).1 hw
    · rfl
    · next heq => cases (List.cons.inj heq).1
    · next hno _ => exact absurd rfl (hno _)
  have hdate : m.date.isValid = true := h.date
  have hclock : (⟨m.hour, m.minute, m.second, m.micro / 1000 * 1000⟩ : Clock).isValid = true := by
    simp [Clock.isValid, h.hour, h.minute, h.second]
  rw [Moment.ofIso?, String.toList_ofList]
  dsimp only
  rw [hlength, ← r.length_date, List.take_left, List.drop_left, r.ofIsoChars?_date]
  simp [r.ofIsoChars?_clock, hdate, hclock, Moment.toMillis]

end StampRows

namespace Moment

variable {m : Moment}

def IsShown.rows (h : m.IsShown) : StampRows m where
  year := (padZeros 4 (toString m.date.year)).toList
  month := (two m.date.month).toList
  day := (two m.date.day).toList
  hour := (two m.hour).toList
  minute := (two m.minute).toList
  second := (two m.second).toList
  millis := (padZeros 3 (toString (m.micro / 1000))).toList
  isYear := isRow_padZeros (by decide) h.bounds.1
  isMonth := isRow_padZeros (by decide) h.bounds.2.1
  isDay := isRow_padZeros (by decide) h.bounds.2.2.1
  isHour := isRow_padZeros (by decide) h.bounds.2.2.2.1
  isMinute := isRow_padZeros (by decide) h.bounds.2.2.2.2.1
  isSecond := isRow_padZeros (by decide) h.bounds.2.2.2.2.2.1
  isMillis := isRow_padZeros (by decide) h.bounds.2.2.2.2.2.2

theorem IsShown.toList_stamp (h : m.IsShown) :
    m.stamp.toList = h.rows.date ++ 'T' :: h.rows.clock ++ ['Z'] := by
  simp [stamp, Date.text, StampRows.date, StampRows.clock, rows, two]

end Moment

end TableTalk

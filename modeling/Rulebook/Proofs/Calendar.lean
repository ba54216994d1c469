import Rulebook.Time.DateTime

/-!
# Dates in order, and when two points in time are the same

Days are numbered in the order of the calendar (`Date.dayNumber_lt_of_before`), so the clock on the wall tells the
date and the time of day (`DateTime.wallMicros_inj`). Two points in time are the same for a comparison exactly if
they are the same moment (`DateTime.same_iff_sameMoment`).
-/

namespace Rulebook.Time

/-! ### Years and months -/

def daysInYear (year : Nat) : Nat := if isLeapYear year then 366 else 365

theorem daysInMonths_twelve (year : Nat) : daysInMonths year 12 = daysInYear year := by
  unfold daysInYear
  cases leap : isLeapYear year <;> simp [daysInMonths, daysInMonth, leap]

theorem isLeapYear_iff {year : Nat} : isLeapYear year = true ↔ year % 4 = 0 ∧ (year % 100 ≠ 0 ∨ year % 400 = 0) := by
  simp [isLeapYear]

theorem daysInYears_succ (years : Nat) : daysInYears (years + 1) = daysInYears years + daysInYear (years + 1) := by
  have fewer : years / 100 ≤ years / 4 := by omega
  have fourth : (years + 1) / 4 = years / 4 + if (years + 1) % 4 = 0 then 1 else 0 := by split <;> omega
  have hundredth : (years + 1) / 100 = years / 100 + if (years + 1) % 100 = 0 then 1 else 0 := by split <;> omega
  have fourHundredth : (years + 1) / 400 = years / 400 + if (years + 1) % 400 = 0 then 1 else 0 := by split <;> omega
  have leap : daysInYear (years + 1) =
      if (years + 1) % 4 = 0 ∧ ((years + 1) % 100 ≠ 0 ∨ (years + 1) % 400 = 0) then 366 else 365 := by
    simp only [daysInYear, isLeapYear_iff]
  have of100 : (years + 1) % 100 = 0 → (years + 1) % 4 = 0 := by omega
  have of400 : (years + 1) % 400 = 0 → (years + 1) % 100 = 0 := by omega
  rw [leap, daysInYears, daysInYears, fourth, hundredth, fourHundredth]
  -- what is left is about whether the year is a multiple of 4, of 100 and of 400, and no more about division
  generalize years / 4 = fours at *
  generalize years / 100 = hundreds at *
  generalize years / 400 = fourHundreds at *
  generalize (years + 1) % 4 = r4 at *
  generalize (years + 1) % 100 = r100 at *
  generalize (years + 1) % 400 = r400 at *
  clear fourth hundredth fourHundredth leap
  repeat' split
  all_goals omega

theorem daysInYears_of_pos {year : Nat} (pos : 0 < year) :
    daysInYears year = daysInYears (year - 1) + daysInYear year := by
  obtain ⟨years, rfl⟩ : ∃ years, year = years + 1 := ⟨year - 1, by omega⟩
  exact daysInYears_succ years

theorem daysInMonths_of_pos (year : Nat) {month : Nat} (pos : 0 < month) :
    daysInMonths year month = daysInMonths year (month - 1) + daysInMonth year month := by
  obtain ⟨months, rfl⟩ : ∃ months, month = months + 1 := ⟨month - 1, by omega⟩
  rfl

theorem daysInYears_mono {m n : Nat} (h : m ≤ n) : daysInYears m ≤ daysInYears n := by
  induction h with
  | refl => exact Nat.le_refl _
  | step _ ih =>
    rw [daysInYears_succ]
    omega

theorem daysInMonths_mono (year : Nat) {m n : Nat} (h : m ≤ n) : daysInMonths year m ≤ daysInMonths year n := by
  induction h with
  | refl => exact Nat.le_refl _
  | step _ ih =>
    rw [daysInMonths]
    omega

/-! ### Dates -/

namespace Date

/-- The number of days of a date's year before it. -/
def dayOfYear (d : Date) : Nat := daysInMonths d.year (d.month - 1) + (d.day - 1)

/-- A date lies before another one in the calendar. -/
def Before (a b : Date) : Prop :=
  a.year < b.year ∨ a.year = b.year ∧ (a.month < b.month ∨ a.month = b.month ∧ a.day < b.day)

theorem dayNumber_eq (d : Date) : d.dayNumber = daysInYears (d.year - 1) + d.dayOfYear := Nat.add_assoc _ _ _

/-- A date lies in its month. -/
theorem dayOfYear_lt_daysInMonths (d : Date) : d.dayOfYear < daysInMonths d.year d.month := by
  obtain ⟨first, last⟩ := d.day_range
  have whole := daysInMonths_of_pos d.year d.month_range.1
  unfold dayOfYear
  omega

theorem dayOfYear_lt (d : Date) : d.dayOfYear < daysInYear d.year := by
  have inMonth := d.dayOfYear_lt_daysInMonths
  have inYear := daysInMonths_mono d.year d.month_range.2
  rw [daysInMonths_twelve] at inYear
  omega

theorem dayNumber_lt_daysInYears (d : Date) : d.dayNumber < daysInYears d.year := by
  have whole := daysInYears_of_pos d.year_range.1
  have := d.dayOfYear_lt
  rw [dayNumber_eq]
  omega

/-- Days are numbered in the order of the calendar. -/
theorem dayNumber_lt_of_before {a b : Date} (h : a.Before b) : a.dayNumber < b.dayNumber := by
  rcases h with year | ⟨year, month | ⟨month, day⟩⟩
  · -- the whole year of `a` lies before that of `b`
    have ha := a.dayNumber_lt_daysInYears
    have hb := daysInYears_mono (show a.year ≤ b.year - 1 by omega)
    rw [dayNumber_eq b]
    omega
  · -- the whole month of `a` lies before that of `b`
    have ha := a.dayOfYear_lt_daysInMonths
    have hb := daysInMonths_mono b.year (show a.month ≤ b.month - 1 by omega)
    rw [dayNumber_eq, dayNumber_eq, year]
    rw [year] at ha
    unfold dayOfYear at *
    omega
  · have first := a.day_range.1
    rw [dayNumber_eq, dayNumber_eq, year]
    unfold dayOfYear
    rw [year, month]
    omega

theorem eq_of_parts {a b : Date} (year : a.year = b.year) (month : a.month = b.month) (day : a.day = b.day) :
    a = b := by
  cases a
  cases b
  cases year
  cases month
  cases day
  rfl

theorem before_or_eq_or_before (a b : Date) : a.Before b ∨ a = b ∨ b.Before a := by
  by_cases same : a.year = b.year ∧ a.month = b.month ∧ a.day = b.day
  · exact Or.inr (Or.inl (eq_of_parts same.1 same.2.1 same.2.2))
  · unfold Before
    omega

theorem dayNumber_inj {a b : Date} (h : a.dayNumber = b.dayNumber) : a = b := by
  rcases before_or_eq_or_before a b with before | same | after
  · have := dayNumber_lt_of_before before
    omega
  · exact same
  · have := dayNumber_lt_of_before after
    omega

end Date

/-! ### Times of day -/

namespace TimeOfDay

theorem micros_lt (t : TimeOfDay) : t.micros < microsPerDay := by
  obtain ⟨hour, minute, second, micro, hh, hm, hs, hu⟩ := t
  unfold micros microsPerDay microsPerSecond
  dsimp only
  omega

theorem micros_inj {a b : TimeOfDay} (h : a.micros = b.micros) : a = b := by
  obtain ⟨hour, minute, second, micro, hh, hm, hs, hu⟩ := a
  obtain ⟨hour', minute', second', micro', hh', hm', hs', hu'⟩ := b
  unfold micros microsPerSecond at h
  dsimp only at h
  have hours : hour = hour' := by omega
  have minutes : minute = minute' := by omega
  have seconds : second = second' := by omega
  have micros : micro = micro' := by omega
  subst hours minutes seconds micros
  rfl

end TimeOfDay

/-! ### Points in time -/

namespace DateTime

variable {a b c : DateTime}

/-- The clock on the wall shows the same only at the same time of the same day. -/
theorem wallMicros_inj (h : a.wallMicros = b.wallMicros) : a.date = b.date ∧ a.time = b.time := by
  have ha := a.time.micros_lt
  have hb := b.time.micros_lt
  unfold wallMicros microsPerDay microsPerSecond at h
  unfold microsPerDay microsPerSecond at ha hb
  have days : a.date.dayNumber = b.date.dayNumber := by omega
  have micros : a.time.micros = b.time.micros := by omega
  exact ⟨Date.dayNumber_inj days, TimeOfDay.micros_inj micros⟩

/-- Two points in time are the same moment: with offsets, the same instant, which is what the clock on the wall
shows less the offset; without offsets, the same date and time of day. -/
inductive SameMoment (a b : DateTime) : Prop where
  | instant {p q : Offset} (aware : a.offset = some p) (aware' : b.offset = some q)
      (same : a.wallMicros - p.micros = b.wallMicros - q.micros)
  | written (naive : a.offset = none) (naive' : b.offset = none) (date : a.date = b.date) (time : a.time = b.time)

theorem same_iff_sameMoment : a.same b = true ↔ a.SameMoment b := by
  rw [same_iff]
  constructor
  · rintro ⟨aware, position⟩
    unfold isAware at aware
    unfold DateTime.position at position
    cases ha : a.offset with
    | none =>
      have hb : b.offset = none := by simpa [ha] using aware.symm
      simp only [ha, hb, Option.elim_none, Int.sub_zero] at position
      obtain ⟨date, time⟩ := wallMicros_inj position
      exact .written ha hb date time
    | some p =>
      obtain ⟨q, hb⟩ : ∃ q, b.offset = some q := Option.isSome_iff_exists.1 (by rw [← aware, ha]; rfl)
      simp only [ha, hb, Option.elim_some] at position
      exact .instant ha hb position
  · intro same
    cases same with
    | instant aware aware' same => simp [isAware, position, aware, aware', same]
    | written naive naive' date time => simp [isAware, position, wallMicros, naive, naive', date, time]

instance : Decidable (a.SameMoment b) := decidable_of_iff _ same_iff_sameMoment

theorem SameMoment.refl (a : DateTime) : a.SameMoment a := same_iff_sameMoment.1 (same_refl a)

theorem SameMoment.symm (h : a.SameMoment b) : b.SameMoment a := by
  rw [← same_iff_sameMoment, same_iff] at h ⊢
  exact ⟨h.1.symm, h.2.symm⟩

theorem SameMoment.trans (h : a.SameMoment b) (h' : b.SameMoment c) : a.SameMoment c := by
  rw [← same_iff_sameMoment, same_iff] at h h' ⊢
  exact ⟨h.1.trans h'.1, h.2.trans h'.2⟩

end DateTime

end Rulebook.Time

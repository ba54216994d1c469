import Rulebook.Proofs.Calendar

/-!
# What the clock on the wall shows, in order

A point in time is written as the numbers of its date and its time of day, from the year down to the microsecond. The
clock on the wall goes by the lexicographic order of these numbers (`DateTime.wallMicros_lt_iff`), so one point in time
is earlier than another for a comparison exactly if it is the earlier instant, or is written earlier where neither has an
offset (`DateTime.before_eq_decide`). From one date to the next one in the calendar it goes on by one day, at the end
of a month and of a year as well (`Date.isNext_iff`).
-/

namespace Rulebook.Time

/-! ### Dates -/

namespace Date

variable {a b : Date}

theorem dayNumber_lt_iff : a.dayNumber < b.dayNumber ↔ a.Before b := by
  constructor
  · intro less
    rcases before_or_eq_or_before a b with before | rfl | after
    · exact before
    · exact absurd less (Nat.lt_irrefl _)
    · exact absurd (dayNumber_lt_of_before after) (Nat.lt_asymm less)
  · exact dayNumber_lt_of_before

/-- A date is the next one in the calendar: it is later, and no date lies in between. -/
def IsNext (a b : Date) : Prop := a.Before b ∧ ∀ c : Date, ¬ (a.Before c ∧ c.Before b)

/-- Where a date is the last of its year and not the last of all, another year follows. -/
theorem year_lt_of_before (later : a.Before b) (month : a.month = 12) (day : daysInMonth a.year a.month ≤ a.day) :
    a.year < 9999 := by
  have hb := b.year_range
  have hm := b.month_range
  have hd := b.day_range
  rcases later with year | ⟨year, month' | ⟨month', day'⟩⟩
  · omega
  · omega
  · rw [← year, ← month'] at hd
    omega

/-- A date that is not the last one has a date one day behind it, which is in its month, or the first of the next month,
or the first of the next year. -/
theorem exists_dayNumber_eq_succ (later : a.Before b) : ∃ c : Date, c.dayNumber = a.dayNumber + 1 := by
  have first (year month : Nat) : 1 ≤ 1 ∧ 1 ≤ daysInMonth year month := by
    have := daysInMonth_pos year month
    omega
  have month := daysInMonths_of_pos a.year a.month_range.1
  have year := daysInYears_of_pos a.year_range.1
  have := a.month_range
  have := a.day_range
  by_cases inMonth : a.day < daysInMonth a.year a.month
  · refine ⟨⟨a.year, a.month, a.day + 1, a.year_range, a.month_range, by omega⟩, ?_⟩
    simp only [dayNumber]
    omega
  · by_cases inYear : a.month < 12
    · refine ⟨⟨a.year, a.month + 1, 1, a.year_range, by omega, first _ _⟩, ?_⟩
      simp only [dayNumber, Nat.add_sub_cancel]
      omega
    · -- all months of the year lie before its last day
      have december : a.month = 12 := by omega
      have := year_lt_of_before later december (Nat.le_of_not_lt inMonth)
      refine ⟨⟨a.year + 1, 1, 1, by omega, by omega, first _ _⟩, ?_⟩
      rw [← daysInMonths_twelve, ← december] at year
      simp only [dayNumber, Nat.add_sub_cancel, Nat.sub_self, daysInMonths]
      omega

/-- The next date in the calendar is the date of the next day. -/
theorem isNext_iff : a.IsNext b ↔ b.dayNumber = a.dayNumber + 1 := by
  constructor
  · rintro ⟨later, between⟩
    obtain ⟨c, hc⟩ := exists_dayNumber_eq_succ later
    -- `c` is behind `a`, so that `b` cannot be behind `c`
    have behind : a.Before c := dayNumber_lt_iff.1 (by omega)
    have upTo : ¬ c.dayNumber < b.dayNumber := fun less => between c ⟨behind, dayNumber_lt_iff.1 less⟩
    have := dayNumber_lt_of_before later
    omega
  · intro next
    refine ⟨dayNumber_lt_iff.1 (by omega), fun c ⟨behind, before⟩ => ?_⟩
    have := dayNumber_lt_of_before behind
    have := dayNumber_lt_of_before before
    omega

instance : Decidable (a.IsNext b) := decidable_of_iff _ isNext_iff.symm

example : IsNext ⟨1900, 2, 28, by decide, by decide, by decide⟩ ⟨1900, 3, 1, by decide, by decide, by decide⟩ := by
  decide

end Date

/-! ### Times of day -/

namespace TimeOfDay

variable {s t : TimeOfDay}

/-- The numbers of a time of day, from the hour to the microsecond. -/
def numbers (t : TimeOfDay) : List Nat := [t.hour, t.minute, t.second, t.microsecond]

theorem micros_lt_iff : s.micros < t.micros ↔ s.numbers < t.numbers := by
  obtain ⟨hour, minute, second, micro, hh, hm, hs, hu⟩ := s
  obtain ⟨hour', minute', second', micro', hh', hm', hs', hu'⟩ := t
  simp only [micros, microsPerSecond, numbers, List.cons_lt_cons_iff, List.lt_irrefl, and_false, or_false]
  omega

end TimeOfDay

/-! ### Points in time -/

namespace DateTime

variable {a b : DateTime}

/-- The numbers with which a point in time is written, from the year to the microsecond. -/
def numbers (t : DateTime) : List Nat := t.date.year :: t.date.month :: t.date.day :: t.time.numbers

theorem numbers_lt_iff : a.numbers < b.numbers ↔
    a.date.Before b.date ∨ a.date = b.date ∧ a.time.numbers < b.time.numbers := by
  have sameDate : a.date = b.date ↔
      a.date.year = b.date.year ∧ a.date.month = b.date.month ∧ a.date.day = b.date.day :=
    ⟨fun same => by rw [same]; exact ⟨rfl, rfl, rfl⟩, fun ⟨year, month, day⟩ => Date.eq_of_parts year month day⟩
  rw [sameDate]
  simp only [numbers, List.cons_lt_cons_iff, Date.Before, and_or_left, or_assoc, and_assoc]

/-- The clock on the wall goes by the numbers with which points in time are written. -/
theorem wallMicros_lt_iff : a.wallMicros < b.wallMicros ↔ a.numbers < b.numbers := by
  have ha := a.time.micros_lt
  have hb := b.time.micros_lt
  have sameDate : a.date = b.date ↔ a.date.dayNumber = b.date.dayNumber := ⟨congrArg _, Date.dayNumber_inj⟩
  rw [numbers_lt_iff, ← Date.dayNumber_lt_iff, ← TimeOfDay.micros_lt_iff, sameDate]
  unfold wallMicros
  unfold microsPerDay microsPerSecond at *
  omega

/-- A point in time is earlier than another one: with offsets, the earlier instant, which is what the clock on the wall
shows less the offset; without offsets, the one that is written with the earlier date and time of day. -/
inductive Earlier (a b : DateTime) : Prop where
  | instant {p q : Offset} (aware : a.offset = some p) (aware' : b.offset = some q)
      (less : a.wallMicros - p.micros < b.wallMicros - q.micros)
  | written (naive : a.offset = none) (naive' : b.offset = none) (less : a.numbers < b.numbers)

theorem earlier_iff : a.Earlier b ↔ a.isAware = b.isAware ∧ a.position < b.position := by
  unfold isAware DateTime.position
  constructor
  · rintro (⟨aware, aware', less⟩ | ⟨naive, naive', less⟩)
    · simp only [aware, aware', Option.isSome_some, Option.elim_some, less, and_self]
    · simp only [naive, naive', Option.elim_none, Int.sub_zero, wallMicros_lt_iff, less, and_self]
  · rintro ⟨aware, less⟩
    cases ha : a.offset with
    | none =>
      have hb : b.offset = none := by simpa [ha] using aware.symm
      simp only [ha, hb, Option.elim_none, Int.sub_zero, wallMicros_lt_iff] at less
      exact .written ha hb less
    | some p =>
      obtain ⟨q, hb⟩ : ∃ q, b.offset = some q := Option.isSome_iff_exists.1 (by rw [← aware, ha]; rfl)
      simp only [ha, hb, Option.elim_some] at less
      exact .instant ha hb less

instance : Decidable (a.Earlier b) := decidable_of_iff _ earlier_iff.symm

theorem Earlier.isAware_eq (h : a.Earlier b) : a.isAware = b.isAware := (earlier_iff.1 h).1

/-- The comparison of two points in time tells which is earlier, if both have an offset or neither has. -/
theorem before_eq_decide (aware : a.isAware = b.isAware) : a.before b = .ok (decide (a.Earlier b)) := by
  rw [before, if_pos aware]
  exact congrArg Except.ok (decide_eq_decide.2 (by rw [earlier_iff, and_iff_right aware]))

theorem before_of_ne (mixed : a.isAware ≠ b.isAware) : a.before b = .error .mixedAwareness := if_neg mixed

theorem Earlier.irrefl : ¬ a.Earlier a := fun h => Int.lt_irrefl _ (earlier_iff.1 h).2

theorem Earlier.trans {c : DateTime} (h : a.Earlier b) (h' : b.Earlier c) : a.Earlier c := by
  rw [earlier_iff] at *
  exact ⟨h.1.trans h'.1, Int.lt_trans h.2 h'.2⟩

theorem Earlier.trans_same {c : DateTime} (h : a.Earlier b) (h' : b.SameMoment c) : a.Earlier c := by
  rw [← same_iff_sameMoment, same_iff] at h'
  rw [earlier_iff] at *
  rw [← h'.1, ← h'.2]
  exact h

end DateTime

end Rulebook.Time

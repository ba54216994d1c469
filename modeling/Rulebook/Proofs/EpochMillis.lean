import Mathlib.Algebra.Ring.Int.Defs
import Rulebook.Proofs.Clock
import Rulebook.Proofs.Milliseconds

/-!
# Counting milliseconds from the epoch

Every point in time with an offset has a number of whole milliseconds from the epoch, the only one whose millisecond it
lies in (`DateTime.epochMillis_spec`). All points of the calendar lie so near the epoch (`DateTime.position_bounds`)
that a word of 64 bits holds this number, also where an offset leads out of the calendar.
-/

namespace Rulebook.Time.DateTime

variable {a b t : DateTime}

/-! ### How far points in time lie from the epoch -/

theorem wallMicros_bounds (t : DateTime) : 0 ≤ t.wallMicros ∧ t.wallMicros < 3652059 * microsPerDay := by
  have inYear := t.date.dayNumber_lt_daysInYears
  have inCalendar : daysInYears t.date.year ≤ daysInYears 9999 := daysInYears_mono t.date.year_range.2
  have whole : daysInYears 9999 = 3652059 := by decide
  have day := t.time.micros_lt
  unfold wallMicros
  unfold microsPerDay microsPerSecond at *
  omega

/-- An offset leads out of the calendar by less than a day. -/
theorem position_bounds (t : DateTime) :
    -(microsPerDay : Int) < t.position ∧ t.position < 3652060 * microsPerDay := by
  have onWall := t.wallMicros_bounds
  have ahead : -(microsPerDay : Int) < t.offset.elim 0 Offset.micros ∧ t.offset.elim 0 Offset.micros < microsPerDay := by
    cases t.offset with
    | none => decide
    | some o => exact o.range
  unfold position
  omega

theorem millisecond_bounds (t : DateTime) : -62135683200000 ≤ t.millisecond ∧ t.millisecond < 253402387200000 := by
  have bounds := t.position_bounds
  have spec := t.millisecond_spec
  have zero : epoch.position = 719162 * 86400000000 := by decide
  unfold microsPerDay microsPerSecond at bounds
  omega

/-! ### The millisecond of a point in time -/

/-- A point in time lies in one millisecond only. -/
theorem eq_millisecond_iff {k : Int} :
    k = t.millisecond ↔ epoch.position + k * 1000 ≤ t.position ∧ t.position < epoch.position + (k + 1) * 1000 := by
  have spec := t.millisecond_spec
  constructor
  · rintro rfl
    exact spec
  · rintro ⟨begun, unfinished⟩
    omega

theorem millisecond_lt_of_position_add_le (h : a.position + 1000 ≤ b.position) : a.millisecond < b.millisecond := by
  have ha := a.millisecond_spec
  have hb := b.millisecond_spec
  omega

/-- With the same offset, what is written later is no earlier instant. -/
theorem millisecond_le_of_numbers_lt (offset : a.offset = b.offset) (less : a.numbers < b.numbers) :
    a.millisecond ≤ b.millisecond := by
  have onWall := wallMicros_lt_iff.2 less
  refine millisecond_le_of_position_le ?_
  unfold position
  rw [offset]
  omega

/-- From one date to the next one it is one day, at the end of each month and year and in leap years as well. -/
theorem millisecond_of_isNext {date : Date} (next : t.date.IsNext date) :
    millisecond { t with date } = t.millisecond + 86400000 := by
  have days : (date.dayNumber : Int) = t.date.dayNumber + 1 := by exact_mod_cast Date.isNext_iff.1 next
  have later : position { t with date } = t.position + 86400000000 := by
    simp only [position, wallMicros, days, microsPerDay, microsPerSecond]
    omega
  have spec := t.millisecond_spec
  rw [eq_comm, eq_millisecond_iff, later]
  omega

theorem SameMoment.millisecond_eq (same : a.SameMoment b) : a.millisecond = b.millisecond := by
  rw [millisecond, millisecond, (same_iff.1 (same_iff_sameMoment.2 same)).2]

theorem SameMoment.isAware_eq (same : a.SameMoment b) : a.isAware = b.isAware :=
  (same_iff.1 (same_iff_sameMoment.2 same)).1

/-- A point in time with an offset always has a number of milliseconds from the epoch, before it as well: the one
millisecond in which it lies, which a word of 64 bits holds. It depends on nothing but the instant, is no less for a
later instant, and greater for one that is at least a millisecond later; with the same offset it is no less for what is
written later; and from one date to the next one of the calendar it grows by a day. -/
theorem epochMillis_spec (t : DateTime) (aware : t.isAware = true) :
    ∃ k : Int, t.epochMillis = .ok k ∧
      (∀ l : Int, epoch.position + l * 1000 ≤ t.position ∧ t.position < epoch.position + (l + 1) * 1000 ↔ l = k) ∧
      (-(2 ^ 63) < k ∧ k < 2 ^ 63 - 1) ∧
      (∀ u : DateTime, t.SameMoment u → u.epochMillis = .ok k) ∧
      (∀ u : DateTime, u.isAware = true → ∃ l, u.epochMillis = .ok l ∧
        (t.position ≤ u.position → k ≤ l) ∧ (t.position + 1000 ≤ u.position → k < l)) ∧
      (∀ u : DateTime, t.offset = u.offset → t.numbers < u.numbers → ∃ l, u.epochMillis = .ok l ∧ k ≤ l) ∧
      ∀ date, t.date.IsNext date → epochMillis { t with date } = .ok (k + 86400000) := by
  refine ⟨t.millisecond, epochMillis_of_aware aware, fun l => eq_millisecond_iff.symm, ?_, fun u same => ?_,
    fun u aware' => ?_, fun u offset less => ?_, fun date next => ?_⟩
  · have := t.millisecond_bounds
    omega
  · rw [epochMillis_of_aware (same.isAware_eq.symm.trans aware), same.millisecond_eq]
  · exact ⟨_, epochMillis_of_aware aware', millisecond_le_of_position_le, millisecond_lt_of_position_add_le⟩
  · have aware' : u.isAware = true := by rw [isAware, ← offset]; exact aware
    exact ⟨_, epochMillis_of_aware aware', millisecond_le_of_numbers_lt offset less⟩
  · have aware' : isAware { t with date } = true := aware
    rw [epochMillis_of_aware aware', millisecond_of_isNext next]

/-- Half a millisecond before the epoch lies in the millisecond before it, however it is written; from there to the
epoch it is one millisecond more, and to the same time of the first day of 1970 one day. -/
theorem epochMillis_spec_before :
    let lastDay : Date := ⟨1969, 12, 31, by decide, by decide, by decide⟩
    let firstDay : Date := ⟨1970, 1, 1, by decide, by decide, by decide⟩
    let half : TimeOfDay := ⟨23, 59, 59, 999500, by decide, by decide, by decide, by decide⟩
    let t : DateTime := ⟨lastDay, half, some .utc⟩
    let ahead : DateTime := ⟨firstDay, { half with hour := 0, hour_lt := by decide }, some ⟨3600000000, by decide⟩⟩
    t.isAware = true ∧ t.epochMillis = .ok (-1) ∧ ahead.epochMillis = .ok (-1) ∧
      (∃ l, epoch.epochMillis = .ok l ∧ -1 ≤ l) ∧ epochMillis { t with date := firstDay } = .ok 86399999 := by
  intro lastDay firstDay half t ahead
  obtain ⟨k, told, only, -, moments, -, written, next⟩ := epochMillis_spec t rfl
  obtain rfl : -1 = k := (only (-1)).1 (by decide)
  exact ⟨rfl, told, moments ahead (by decide), written epoch rfl (by decide), next firstDay (by decide)⟩

end Rulebook.Time.DateTime

import Rulebook.Proofs.Duplicates

/-!
# Bounds kept as milliseconds

A point in time with an offset lies in one millisecond counted from the epoch, before the epoch as well as after it
(`DateTime.epochMillis_of_aware`). An earlier point never lies in a later millisecond, and points on whole milliseconds
are ordered as their milliseconds are. So milliseconds tell as much about the bounds of a rule as its own comparisons do,
but for points within one millisecond of each other (`Rule.range_by_millis`).
-/

namespace Rulebook.Time

namespace DateTime

variable {a b : DateTime}

/-- The millisecond from the epoch in which a point in time lies. -/
def millisecond (t : DateTime) : Int := (t.position - epoch.position) / 1000

/-- A point in time lies whole milliseconds before or after the epoch. -/
def OnMillisecond (t : DateTime) : Prop := ∃ k : Int, t.position = epoch.position + k * 1000

theorem epochMillis_of_aware (aware : a.isAware = true) : a.epochMillis = .ok a.millisecond := by
  rw [epochMillis, if_pos aware, millisecond]

/-- A millisecond begins at or before a point that lies in it, and the next one behind the point. -/
theorem millisecond_spec (t : DateTime) :
    epoch.position + t.millisecond * 1000 ≤ t.position ∧
      t.position < epoch.position + (t.millisecond + 1) * 1000 := by
  unfold millisecond
  generalize epoch.position = zero
  omega

theorem position_lt_of_millisecond_lt (h : a.millisecond < b.millisecond) : a.position < b.position := by
  have before := (millisecond_spec a).2
  have behind := (millisecond_spec b).1
  omega

theorem millisecond_le_of_position_le (h : a.position ≤ b.position) : a.millisecond ≤ b.millisecond := by
  by_contra later
  have := position_lt_of_millisecond_lt (a := b) (b := a) (by omega)
  omega

/-- A point on a whole millisecond is the beginning of the one in which it lies. -/
theorem OnMillisecond.position_eq (h : a.OnMillisecond) : a.position = epoch.position + a.millisecond * 1000 := by
  obtain ⟨k, hk⟩ := h
  have spec := millisecond_spec a
  have same : a.millisecond = k := by omega
  rw [same, hk]

theorem position_lt_iff_of_onMillisecond (ha : a.OnMillisecond) (hb : b.OnMillisecond) :
    a.position < b.position ↔ a.millisecond < b.millisecond := by
  have := ha.position_eq
  have := hb.position_eq
  omega

theorem position_eq_iff_of_onMillisecond (ha : a.OnMillisecond) (hb : b.OnMillisecond) :
    a.position = b.position ↔ a.millisecond = b.millisecond := by
  have := ha.position_eq
  have := hb.position_eq
  omega

theorem before_of_aware (ha : a.isAware = true) (hb : b.isAware = true) :
    a.before b = .ok (decide (a.position < b.position)) := by
  rw [before, if_pos (ha.trans hb.symm)]

theorem same_iff_of_aware (ha : a.isAware = true) (hb : b.isAware = true) :
    a.same b = true ↔ a.position = b.position := by
  rw [same_iff, ha, hb]
  exact and_iff_right rfl

end DateTime

namespace Window

variable {w : Window} {t : DateTime}

/-- Both bounds of a window have an offset. -/
def IsAware (w : Window) : Prop := w.start.isAware = true ∧ w.finish.isAware = true

/-- Both bounds of a window lie whole milliseconds from the epoch. -/
def OnMilliseconds (w : Window) : Prop := w.start.OnMillisecond ∧ w.finish.OnMillisecond

/-- The bounds of a window as milliseconds from the epoch, which is how a window can be kept. -/
def millis (w : Window) : Except DistanceError (Int × Int) := do
  return (← w.start.epochMillis, ← w.finish.epochMillis)

theorem millis_of_isAware (aware : w.IsAware) : w.millis = .ok (w.start.millisecond, w.finish.millisecond) := by
  rw [millis, DateTime.epochMillis_of_aware aware.1, DateTime.epochMillis_of_aware aware.2]
  rfl

/-- Where nothing lacks an offset, a window is open strictly between its bounds. -/
theorem isOpenAt_of_isAware (aware : w.IsAware) (ht : t.isAware = true) :
    w.isOpenAt (some t) = .ok (decide (w.start.position < t.position ∧ t.position < w.finish.position)) := by
  have first := DateTime.before_of_aware aware.1 ht
  have second := DateTime.before_of_aware ht aware.2
  by_cases started : w.start.position < t.position
  · simp [isOpenAt, first, second, started, bind, Except.bind]
  · simp [isOpenAt, first, started, bind, Except.bind, pure, Except.pure]

theorem same_iff_of_isAware {v w : Window} (hv : v.IsAware) (hw : w.IsAware) :
    v.same w = true ↔ v.start.position = w.start.position ∧ v.finish.position = w.finish.position := by
  rw [same_iff, DateTime.same_iff_of_aware hv.1 hw.1, DateTime.same_iff_of_aware hv.2 hw.2]

end Window

end Rulebook.Time

namespace Rulebook.Rule

open Time (DateTime)

/-- A rule whose bounds have offsets is active at a time whose millisecond lies strictly between those of the bounds,
and only at times whose millisecond does not lie outside them; on whole milliseconds it is active exactly strictly
between. Two rules have the same range, in either direction, exactly if their windows are equal, which is if the starts
are the same moment and so are the finishes, whichever of them lack an offset. If none does, windows that are equal are
kept as the same milliseconds, and on whole milliseconds no others are. -/
theorem range_by_millis :
    (∀ (r : Rule) (t : DateTime), r.window.IsAware → t.isAware = true →
      ∃ start finish time isActive, r.window.millis = .ok (start, finish) ∧ t.epochMillis = .ok time ∧
        r.isActiveAt (some t) = .ok isActive ∧
        (start < time ∧ time < finish → isActive = true) ∧
        (isActive = true → start ≤ time ∧ time ≤ finish) ∧
        (r.window.OnMilliseconds → t.OnMillisecond → (isActive = true ↔ start < time ∧ time < finish))) ∧
      ∀ a b : Rule,
        a.sameRange b = a.window.same b.window ∧ b.sameRange a = a.window.same b.window ∧
          (a.window.same b.window = true ↔
            a.window.start.SameMoment b.window.start ∧ a.window.finish.SameMoment b.window.finish) ∧
          (a.window.IsAware → b.window.IsAware →
            ∃ ofA ofB, a.window.millis = .ok ofA ∧ b.window.millis = .ok ofB ∧
              (a.sameRange b = true → ofA = ofB) ∧
              (a.window.OnMilliseconds → b.window.OnMilliseconds → (a.sameRange b = true ↔ ofA = ofB))) := by
  refine ⟨fun r t aware ht => ?_, fun a b =>
    ⟨sameRange_eq_same a b, (sameRange_comm b a).trans (sameRange_eq_same a b), ?_, fun ha hb => ?_⟩⟩
  · refine ⟨_, _, _, _, Time.Window.millis_of_isAware aware, DateTime.epochMillis_of_aware ht,
      Time.Window.isOpenAt_of_isAware aware ht, ?_, ?_, ?_⟩
    · rintro ⟨started, unfinished⟩
      rw [decide_eq_true_eq]
      exact ⟨DateTime.position_lt_of_millisecond_lt started, DateTime.position_lt_of_millisecond_lt unfinished⟩
    · rw [decide_eq_true_eq]
      rintro ⟨started, unfinished⟩
      exact ⟨DateTime.millisecond_le_of_position_le (Int.le_of_lt started),
        DateTime.millisecond_le_of_position_le (Int.le_of_lt unfinished)⟩
    · intro onMillis ht'
      rw [decide_eq_true_eq, DateTime.position_lt_iff_of_onMillisecond onMillis.1 ht',
        DateTime.position_lt_iff_of_onMillisecond ht' onMillis.2]
  · rw [← sameRange_eq_same, sameRange_iff]
  · have same := Time.Window.same_iff_of_isAware ha hb
    rw [← sameRange_eq_same] at same
    refine ⟨_, _, Time.Window.millis_of_isAware ha, Time.Window.millis_of_isAware hb, ?_, ?_⟩
    · rw [same, Prod.mk.injEq]
      rintro ⟨start, finish⟩
      unfold DateTime.millisecond
      rw [start, finish]
      exact ⟨rfl, rfl⟩
    · intro onMillis onMillis'
      rw [same, Prod.mk.injEq, DateTime.position_eq_iff_of_onMillisecond onMillis.1 onMillis'.1,
        DateTime.position_eq_iff_of_onMillisecond onMillis.2 onMillis'.2]

/-- A rule that holds from the last millisecond before the epoch to the first one after it, with its finish written an
hour ahead of universal time, is active at the epoch, and has the range of a rule whose finish is written without an
hour ahead. -/
theorem range_by_millis_around_epoch :
    let start : DateTime := ⟨⟨1969, 12, 31, by decide, by decide, by decide⟩,
      ⟨23, 59, 59, 999000, by decide, by decide, by decide, by decide⟩, some .utc⟩
    let finish : DateTime := ⟨⟨1970, 1, 1, by decide, by decide, by decide⟩,
      ⟨1, 0, 0, 1000, by decide, by decide, by decide, by decide⟩, some ⟨3600000000, by decide⟩⟩
    let finish' : DateTime := ⟨⟨1970, 1, 1, by decide, by decide, by decide⟩,
      ⟨0, 0, 0, 1000, by decide, by decide, by decide, by decide⟩, some .utc⟩
    let a : Rule := ⟨none, none, [], .empty, .ofBounds (some start) (some finish)⟩
    let b : Rule := ⟨none, none, [], .empty, .ofBounds (some start) (some finish')⟩
    (a.window.IsAware ∧ b.window.IsAware ∧ Time.epoch.isAware = true) ∧
      (a.window.OnMilliseconds ∧ b.window.OnMilliseconds ∧ Time.epoch.OnMillisecond) ∧
      a.window.millis = .ok (-1, 1) ∧ a.isActiveAt (some Time.epoch) = .ok true ∧ a.sameRange b = true := by
  intro start finish finish' a b
  have onStart : start.OnMillisecond := ⟨-1, by decide⟩
  have onFinish : finish.OnMillisecond := ⟨1, by decide⟩
  have onFinish' : finish'.OnMillisecond := ⟨1, by decide⟩
  have onEpoch : Time.epoch.OnMillisecond := ⟨0, by decide⟩
  have before : start.millisecond = -1 := by decide
  have behind : finish.millisecond = 1 := by decide
  have behind' : finish'.millisecond = 1 := by decide
  have kept : a.window.millis = .ok (-1, 1) := by
    rw [Time.Window.millis_of_isAware ⟨rfl, rfl⟩]
    exact congrArg Except.ok (Prod.ext before behind)
  have kept' : b.window.millis = .ok (-1, 1) := by
    rw [Time.Window.millis_of_isAware ⟨rfl, rfl⟩]
    exact congrArg Except.ok (Prod.ext before behind')
  have zero : Time.epoch.epochMillis = .ok 0 := by rfl
  obtain ⟨of_rule, of_two⟩ := range_by_millis
  obtain ⟨s, f, t, isActive, bounds, time, verdict, -, -, exactly⟩ := of_rule a Time.epoch ⟨rfl, rfl⟩ rfl
  obtain ⟨-, -, -, aware⟩ := of_two a b
  obtain ⟨ofA, ofB, boundsA, boundsB, -, sameRange⟩ := aware ⟨rfl, rfl⟩ ⟨rfl, rfl⟩
  cases kept.symm.trans bounds
  cases kept.symm.trans boundsA
  cases kept'.symm.trans boundsB
  cases zero.symm.trans time
  have active : isActive = true := (exactly ⟨onStart, onFinish⟩ onEpoch).2 (by decide)
  refine ⟨⟨⟨rfl, rfl⟩, ⟨rfl, rfl⟩, rfl⟩, ⟨⟨onStart, onFinish⟩, ⟨onStart, onFinish'⟩, onEpoch⟩, kept, ?_, ?_⟩
  · rw [verdict, active]
  · exact (sameRange ⟨onStart, onFinish⟩ ⟨onStart, onFinish'⟩).2 rfl

/-- Half a millisecond behind its start a rule may be active, though both lie in one millisecond. -/
example :
    let start : DateTime := { Time.epoch with time := ⟨0, 0, 0, 250, by decide, by decide, by decide, by decide⟩ }
    let time : DateTime := { Time.epoch with time := ⟨0, 0, 0, 750, by decide, by decide, by decide, by decide⟩ }
    let r : Rule := ⟨none, none, [], .empty, .ofBounds (some start) none⟩
    start.millisecond = time.millisecond ∧ r.isActiveAt (some time) = .ok true := ⟨by decide, rfl⟩

end Rulebook.Rule

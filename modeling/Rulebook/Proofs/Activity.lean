import Rulebook.Proofs.Clock
import Rulebook.Rule.Basic

/-!
# When a rule is active

A window compares its start with a time, and the time with its finish only if the start is earlier. So it can be told
whether a window is open at a time unless one of the points in time that are compared has an offset and the other has
none (`Window.isOpenAt_eq_error_iff`), and a window is open exactly strictly between its bounds
(`Window.isOpenAt_eq_true_iff`).
-/

namespace Rulebook.Time.Window

variable {w : Window} {t : DateTime}

theorem isOpenAt_none (w : Window) : w.isOpenAt none = .error .missing := rfl

theorem isOpenAt_of_mixed (mixed : w.start.isAware ≠ t.isAware) :
    w.isOpenAt (some t) = .error .mixedAwareness := by
  rw [isOpenAt, DateTime.before_of_ne mixed]
  rfl

/-- Where the start is not earlier, the finish does not count. -/
theorem isOpenAt_of_not_earlier (aware : w.start.isAware = t.isAware) (unstarted : ¬ w.start.Earlier t) :
    w.isOpenAt (some t) = .ok false := by
  rw [isOpenAt, DateTime.before_eq_decide aware, decide_eq_false unstarted]
  rfl

theorem isOpenAt_of_earlier (started : w.start.Earlier t) : w.isOpenAt (some t) = t.before w.finish := by
  rw [isOpenAt, DateTime.before_eq_decide started.isAware_eq, decide_eq_true started]
  rfl

theorem isOpenAt_eq_error_iff {time : Option DateTime} : (∃ e, w.isOpenAt time = .error e) ↔
    time = none ∨ ∃ t, time = some t ∧ (w.start.isAware ≠ t.isAware ∨
      w.start.isAware = t.isAware ∧ w.start.Earlier t ∧ w.finish.isAware ≠ t.isAware) := by
  cases time with
  | none => exact iff_of_true ⟨_, isOpenAt_none w⟩ (Or.inl rfl)
  | some t =>
    simp only [reduceCtorEq, false_or, Option.some.injEq, exists_eq_left']
    by_cases aware : w.start.isAware = t.isAware
    · by_cases started : w.start.Earlier t
      · -- only here the finish is looked at
        rw [isOpenAt_of_earlier started]
        by_cases aware' : t.isAware = w.finish.isAware
        · simp [DateTime.before_eq_decide aware', aware, aware']
        · simp [DateTime.before_of_ne aware', aware, started, Ne.symm aware']
      · simp [isOpenAt_of_not_earlier aware started, aware, started]
    · simp [isOpenAt_of_mixed aware, aware]

theorem isOpenAt_eq_true_iff : w.isOpenAt (some t) = .ok true ↔ w.start.Earlier t ∧ t.Earlier w.finish := by
  by_cases started : w.start.Earlier t
  · rw [isOpenAt_of_earlier started, and_iff_right started]
    by_cases aware : t.isAware = w.finish.isAware
    · rw [DateTime.before_eq_decide aware, Except.ok.injEq, decide_eq_true_eq]
    · rw [DateTime.before_of_ne aware]
      exact iff_of_false nofun (fun unfinished => aware unfinished.isAware_eq)
  · refine iff_of_false (fun isOpen => ?_) (fun both => started both.1)
    by_cases aware : w.start.isAware = t.isAware
    · rw [isOpenAt_of_not_earlier aware started] at isOpen
      cases isOpen
    · rw [isOpenAt_of_mixed aware] at isOpen
      cases isOpen

/-- Times that are not before one at which a window is open, nor behind another one, are times at which it is open. -/
theorem isOpenAt_of_between {t u v : DateTime} (first : w.isOpenAt (some t) = .ok true)
    (last : w.isOpenAt (some v) = .ok true) (aware : u.isAware = t.isAware) (notBefore : ¬ u.Earlier t)
    (notBehind : ¬ v.Earlier u) : w.isOpenAt (some u) = .ok true := by
  rw [isOpenAt_eq_true_iff] at *
  simp only [DateTime.earlier_iff] at *
  have aware' : v.isAware = u.isAware := by rw [last.2.1, ← first.2.1, aware]
  have from_ : t.position ≤ u.position := Int.not_lt.1 fun less => notBefore ⟨aware, less⟩
  have upTo : u.position ≤ v.position := Int.not_lt.1 fun less => notBehind ⟨aware', less⟩
  refine ⟨⟨by rw [first.1.1, aware], ?_⟩, ⟨by rw [aware, first.2.1], ?_⟩⟩
  · exact Int.lt_of_lt_of_le first.1.2 from_
  · exact Int.lt_of_le_of_lt upTo last.2.2

end Rulebook.Time.Window

namespace Rulebook.Rule

open Time (DateTime)

/-- Whether a rule is active cannot be told if no time is given, if the time and the start differ in whether they have
an offset, or if they do not, the start is earlier and the finish differs. Otherwise it is active exactly if the start is
earlier than the time and the time earlier than the finish. So a rule is never active if only one of its bounds has an
offset or if its finish is not behind its start; the times at which it is active have no gaps and do not take in its
bounds; and bounds and times that are the same moments cannot be told apart. -/
theorem isActiveAt_spec (r : Rule) (start finish : Option DateTime) :
    let rule : Rule := { r with window := .ofBounds start finish }
    let s := start.getD Time.epoch
    let f := finish.getD Time.latest
    (∀ time, (∃ e, rule.isActiveAt time = .error e) ↔
      time = none ∨ ∃ t, time = some t ∧
        (s.isAware ≠ t.isAware ∨ s.isAware = t.isAware ∧ s.Earlier t ∧ f.isAware ≠ t.isAware)) ∧
      (∀ t isActive, rule.isActiveAt (some t) = .ok isActive → (isActive = true ↔ s.Earlier t ∧ t.Earlier f)) ∧
      (s.isAware ≠ f.isAware → ∀ time, rule.isActiveAt time ≠ .ok true) ∧
      (f.Earlier s ∨ f.SameMoment s → ∀ time, rule.isActiveAt time ≠ .ok true) ∧
      (rule.isActiveAt (some s) ≠ .ok true ∧ rule.isActiveAt (some f) ≠ .ok true ∧
        ∀ t u v, rule.isActiveAt (some t) = .ok true → rule.isActiveAt (some v) = .ok true →
          u.isAware = t.isAware → ¬ u.Earlier t → ¬ v.Earlier u → rule.isActiveAt (some u) = .ok true) ∧
      ∀ start' finish' time time', s.SameMoment start' → f.SameMoment finish' →
        Option.Rel DateTime.SameMoment time time' →
          rule.isActiveAt time = isActiveAt { r with window := ⟨start', finish'⟩ } time' := by
  intro rule s f
  have isActive (t : DateTime) : rule.isActiveAt (some t) = .ok true ↔ s.Earlier t ∧ t.Earlier f :=
    Time.Window.isOpenAt_eq_true_iff
  have inactive (never : ∀ t, s.Earlier t → ¬ t.Earlier f) (time : Option DateTime) :
      rule.isActiveAt time ≠ .ok true := by
    intro active
    cases time with
    | none => cases active
    | some t =>
      rw [isActive] at active
      exact never t active.1 active.2
  refine ⟨fun time => Time.Window.isOpenAt_eq_error_iff, fun t verdict told => ?_, fun mixed => ?_, fun order => ?_,
    ⟨?_, ?_, fun t u v => Time.Window.isOpenAt_of_between⟩, fun start' finish' time time' hs hf times => ?_⟩
  · rw [← isActive, told, Except.ok.injEq]
  · exact inactive fun t started unfinished => mixed (started.isAware_eq.trans unfinished.isAware_eq)
  · refine inactive fun t started unfinished => ?_
    have less := started.trans unfinished
    rcases order with behind | same
    · exact (less.trans behind).irrefl
    · exact (less.trans_same same).irrefl
  · rw [ne_eq, isActive]
    exact fun both => both.1.irrefl
  · rw [ne_eq, isActive]
    exact fun both => both.2.irrefl
  · cases times with
    | none => rfl
    | some same =>
      have bounds : rule.window.same ⟨start', finish'⟩ = true :=
        Time.Window.same_iff.2 ⟨DateTime.same_iff_sameMoment.2 hs, DateTime.same_iff_sameMoment.2 hf⟩
      exact Time.Window.isOpenAt_congr bounds (DateTime.same_iff_sameMoment.2 same)

/-- A rule that holds from a noon without an offset is never active, and a time behind that noon is one at which this
cannot be told; a rule that ends before it starts is never active either; and a rule that always holds is active from a
noon in universal time, which is one o'clock an hour ahead of it, to the same noon of the next day and so in between. -/
theorem isActiveAt_spec_noon :
    let date : Time.Date := ⟨2024, 2, 29, by decide, by decide, by decide⟩
    let noon : Time.TimeOfDay := ⟨12, 0, 0, 0, by decide, by decide, by decide, by decide⟩
    let one : Time.TimeOfDay := { noon with hour := 13, hour_lt := by decide }
    let nextDay : Time.Date := ⟨2024, 3, 1, by decide, by decide, by decide⟩
    let ahead : DateTime := ⟨date, one, some ⟨3600000000, by decide⟩⟩
    let mixed : Rule := ⟨none, none, [], .empty, .ofBounds (some ⟨date, noon, none⟩) none⟩
    let reversed : Rule :=
      ⟨none, none, [], .empty, .ofBounds (some ⟨date, one, none⟩) (some ⟨date, noon, none⟩)⟩
    let always : Rule := ⟨none, none, [], .empty, .ofBounds none none⟩
    ((∃ e, mixed.isActiveAt (some ⟨date, one, none⟩) = .error e) ∧ ∀ time, mixed.isActiveAt time ≠ .ok true) ∧
      (∀ time, reversed.isActiveAt time ≠ .ok true) ∧
      always.isActiveAt (some ⟨date, noon, some .utc⟩) = always.isActiveAt (some ahead) ∧
      always.isActiveAt (some ⟨date, noon, some .utc⟩) = .ok true ∧
      always.isActiveAt (some ⟨nextDay, noon, some .utc⟩) = .ok true ∧
      always.isActiveAt (some ⟨date, one, some .utc⟩) = .ok true ∧
      (Time.epoch.Earlier ⟨nextDay, noon, some .utc⟩ ∧ DateTime.Earlier ⟨nextDay, noon, some .utc⟩ Time.latest) := by
  intro date noon one nextDay ahead mixed reversed always
  obtain ⟨untold, -, never, -, -, -⟩ := isActiveAt_spec mixed (some ⟨date, noon, none⟩) none
  obtain ⟨-, -, -, never', -, -⟩ := isActiveAt_spec reversed (some ⟨date, one, none⟩) (some ⟨date, noon, none⟩)
  obtain ⟨-, told, -, -, ⟨-, -, between⟩, moments⟩ := isActiveAt_spec always none none
  have first : always.isActiveAt (some ⟨date, noon, some .utc⟩) = .ok true :=
    Time.Window.isOpenAt_eq_true_iff.2 ⟨by decide, by decide⟩
  have last : always.isActiveAt (some ⟨nextDay, noon, some .utc⟩) = .ok true :=
    Time.Window.isOpenAt_eq_true_iff.2 ⟨by decide, by decide⟩
  refine ⟨⟨(untold _).2 (Or.inr ⟨_, rfl, Or.inr (by decide)⟩), never (by decide)⟩, never' (Or.inl (by decide)), ?_,
    first, last, between _ _ _ first last rfl (by decide) (by decide), (told _ _ last).1 rfl⟩
  exact moments _ _ _ _ (.refl _) (.refl _) (.some (by decide))

end Rulebook.Rule

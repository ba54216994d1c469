import Rulebook.Proofs.Calendar
import Rulebook.Proofs.Text.Apart
import Rulebook.Time.Iso

/-!
# Reading points in time

What is written of a point in time tells its date, its time of day and its offset, as far as it has one
(`DateTime.apart_chars`). All numbers have a fixed width. The parts that may be missing, which are the microseconds,
the offset and the seconds of the offset, begin with characters with which nothing else begins that may stand there.
-/

namespace Rulebook.Time

open Text (Apart StartsOutside fixedWidth fixedWidth_append_inj)

variable {s t : List Char}

theorem daysInMonth_le (year month : Nat) : daysInMonth year month ≤ 31 := by
  unfold daysInMonth
  repeat' split
  all_goals omega

theorem Date.apart_chars : Apart [] Date.chars := by
  rintro ⟨year, month, day, hy, hm, hd⟩ ⟨year', month', day', hy', hm', hd'⟩ s t _ _ h
  have last := daysInMonth_le year month
  have last' := daysInMonth_le year' month'
  simp only [chars, List.append_assoc, List.cons_append] at h
  obtain ⟨years, h⟩ := fixedWidth_append_inj (by decide) (by omega) (by omega) h
  obtain ⟨months, h⟩ := fixedWidth_append_inj (by decide) (by omega) (by omega) (List.cons.inj h).2
  obtain ⟨days, rest⟩ := fixedWidth_append_inj (by decide) (by omega) (by omega) (List.cons.inj h).2
  exact ⟨eq_of_parts years months days, rest⟩

theorem fractionChars_append_inj {m n : Nat} (hm : m < 1000000) (hn : n < 1000000) (hs : StartsOutside ['.'] s)
    (ht : StartsOutside ['.'] t) (h : fractionChars m ++ s = fractionChars n ++ t) : m = n ∧ s = t := by
  unfold fractionChars at h
  by_cases zero : m = 0 <;> by_cases zero' : n = 0
  · rw [if_pos zero, if_pos zero'] at h
    exact ⟨zero.trans zero'.symm, h⟩
  · rw [if_pos zero, if_neg zero'] at h
    exact absurd h (hs.ne_cons List.mem_cons_self)
  · rw [if_neg zero, if_pos zero'] at h
    exact absurd h.symm (ht.ne_cons List.mem_cons_self)
  · rw [if_neg zero, if_neg zero'] at h
    exact fixedWidth_append_inj (by decide) hm hn (List.cons.inj h).2

theorem TimeOfDay.apart_chars : Apart ['.'] TimeOfDay.chars := by
  rintro ⟨hour, minute, second, micro, hh, hm, hs, hu⟩ ⟨hour', minute', second', micro', hh', hm', hs', hu'⟩ s t os ot h
  simp only [chars, List.append_assoc, List.cons_append] at h
  obtain ⟨hours, h⟩ := fixedWidth_append_inj (by decide) (by omega) (by omega) h
  obtain ⟨minutes, h⟩ := fixedWidth_append_inj (by decide) (by omega) (by omega) (List.cons.inj h).2
  obtain ⟨seconds, h⟩ := fixedWidth_append_inj (by decide) (by omega) (by omega) (List.cons.inj h).2
  obtain ⟨micros, rest⟩ := fractionChars_append_inj hu hu' os ot h
  subst hours minutes seconds micros
  exact ⟨rfl, rest⟩

/-! ### Offsets -/

namespace Offset

/-- What is written behind the minutes of an offset of so many microseconds. -/
def secondsChars (size : Nat) : List Char :=
  if size % (60 * microsPerSecond) = 0 then []
  else ':' :: fixedWidth 10 2 (size / microsPerSecond % 60) ++ fractionChars (size % microsPerSecond)

theorem chars_eq (o : Offset) :
    o.chars = (if o.micros < 0 then '-' else '+') :: fixedWidth 10 2 (o.micros.natAbs / microsPerSecond / 3600) ++
      ':' :: fixedWidth 10 2 (o.micros.natAbs / microsPerSecond / 60 % 60) ++ secondsChars o.micros.natAbs := rfl

theorem secondsChars_append_inj {m n : Nat} (hs : StartsOutside [':', '.'] s) (ht : StartsOutside [':', '.'] t)
    (h : secondsChars m ++ s = secondsChars n ++ t) :
    m % (60 * microsPerSecond) = n % (60 * microsPerSecond) ∧ s = t := by
  unfold secondsChars at h
  by_cases whole : m % (60 * microsPerSecond) = 0 <;> by_cases whole' : n % (60 * microsPerSecond) = 0
  · rw [if_pos whole, if_pos whole'] at h
    exact ⟨whole.trans whole'.symm, h⟩
  · rw [if_pos whole, if_neg whole'] at h
    exact absurd h (hs.ne_cons List.mem_cons_self)
  · rw [if_neg whole, if_pos whole'] at h
    exact absurd h.symm (ht.ne_cons List.mem_cons_self)
  · rw [if_neg whole, if_neg whole', List.append_assoc, List.append_assoc] at h
    unfold microsPerSecond at h ⊢
    obtain ⟨seconds, h⟩ := fixedWidth_append_inj (by decide) (by omega) (by omega) (List.cons.inj h).2
    obtain ⟨fraction, h⟩ := fractionChars_append_inj (by omega) (by omega) (hs.mono (by decide)) (ht.mono (by decide)) h
    exact ⟨by omega, h⟩

theorem apart_chars : Apart [':', '.'] Offset.chars := by
  rintro ⟨a, ha⟩ ⟨b, hb⟩ s t hs ht h
  simp only [chars_eq, List.append_assoc, List.cons_append] at h
  unfold microsPerDay microsPerSecond at ha hb
  unfold microsPerSecond at h
  obtain ⟨signs, h⟩ := List.cons.inj h
  obtain ⟨hours, h⟩ := fixedWidth_append_inj (by decide) (by omega) (by omega) h
  obtain ⟨minutes, h⟩ := fixedWidth_append_inj (by decide) (by omega) (by omega) (List.cons.inj h).2
  obtain ⟨seconds, rest⟩ := secondsChars_append_inj hs ht h
  unfold microsPerSecond at seconds
  -- hours, minutes and what is left below a minute make up the size
  have sizes : a.natAbs = b.natAbs := by omega
  have same : a = b := by
    by_cases negative : a < 0 <;> by_cases negative' : b < 0
    · omega
    · rw [if_pos negative, if_neg negative'] at signs
      cases signs
    · rw [if_neg negative, if_pos negative'] at signs
      cases signs
    · omega
  subst same
  exact ⟨rfl, rest⟩

/-- An offset begins with its sign. -/
theorem head?_chars_append (o : Offset) (s : List Char) :
    (o.chars ++ s).head? = some (if o.micros < 0 then '-' else '+') := rfl

/-- An offset that may be missing can be told apart from what does not begin with a sign. -/
theorem apart_elim_chars : Apart [':', '.', '+', '-'] fun o : Option Offset => o.elim [] chars := by
  refine (apart_chars.mono (by decide)).elim [] fun o s t outside h => ?_
  have sign := outside _ ((congrArg List.head? h).trans (o.head?_chars_append t))
  split at sign <;> exact absurd sign (by decide)

end Offset

/-! ### Points in time -/

namespace DateTime

theorem apart_chars : Apart [':', '.', '+', '-'] DateTime.chars := by
  intro a b s t hs ht h
  have noPoint : ∀ (o : Option Offset) {s}, StartsOutside [':', '.', '+', '-'] s →
      StartsOutside ['.'] (o.elim [] Offset.chars ++ s) := by
    intro o s outside
    cases o with
    | none => exact outside.mono (by decide)
    | some o =>
      intro c sign
      rw [Option.elim_some, o.head?_chars_append] at sign
      cases sign
      split <;> decide
  simp only [chars, List.append_assoc, List.cons_append] at h
  obtain ⟨date, h⟩ := Date.apart_chars.cancel h
  obtain ⟨time, h⟩ := TimeOfDay.apart_chars (noPoint a.offset hs) (noPoint b.offset ht) (List.cons.inj h).2
  obtain ⟨offset, rest⟩ := Offset.apart_elim_chars hs ht h
  cases a
  cases b
  cases date
  cases time
  cases offset
  exact ⟨rfl, rest⟩

end DateTime

end Rulebook.Time

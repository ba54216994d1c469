/-!
# The Gregorian calendar

The calendar is extended to all years from 1 to 9999. `Date.dayNumber` numbers the days from 0001-01-01 on, so that
the distance between two dates is the difference of their numbers.
-/

namespace Rulebook.Time

def isLeapYear (year : Nat) : Bool :=
  year % 4 == 0 && (year % 100 != 0 || year % 400 == 0)

def daysInMonth (year month : Nat) : Nat :=
  if month = 2 then (if isLeapYear year then 29 else 28)
  else if month = 4 ∨ month = 6 ∨ month = 9 ∨ month = 11 then 30
  else 31

/-- The number of days in the first months of a year. -/
def daysInMonths (year : Nat) : Nat → Nat
  | 0 => 0
  | month + 1 => daysInMonths year month + daysInMonth year (month + 1)

/-- The number of days in the first years, from year 1 on. -/
def daysInYears (years : Nat) : Nat :=
  365 * years + years / 4 - years / 100 + years / 400

/-- A date of the years 1 to 9999. -/
structure Date where
  year : Nat
  month : Nat
  day : Nat
  year_range : 1 ≤ year ∧ year ≤ 9999
  month_range : 1 ≤ month ∧ month ≤ 12
  day_range : 1 ≤ day ∧ day ≤ daysInMonth year month
deriving DecidableEq

/-- The number of days from 0001-01-01 to a date. -/
def Date.dayNumber (d : Date) : Nat :=
  daysInYears (d.year - 1) + daysInMonths d.year (d.month - 1) + (d.day - 1)

theorem daysInMonth_pos (year month : Nat) : 28 ≤ daysInMonth year month := by
  unfold daysInMonth
  repeat' split
  all_goals omega

example : daysInMonth 1900 2 = 28 := by decide

end Rulebook.Time

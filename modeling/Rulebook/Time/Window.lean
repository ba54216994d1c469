import Rulebook.Time.DateTime

/-!
# Windows of validity

A window lies between two points in time, which are not in it. A bound that is not given is the beginning of 1970 or
the last millisecond of 9999, and both of these are whole milliseconds from the first.
-/

namespace Rulebook.Time

/-- The beginning of 1970. -/
def epoch : DateTime :=
  ⟨⟨1970, 1, 1, by decide, by decide, by decide⟩,
    ⟨0, 0, 0, 0, by decide, by decide, by decide, by decide⟩, some .utc⟩

/-- The last millisecond of 9999. -/
def latest : DateTime :=
  ⟨⟨9999, 12, 31, by decide, by decide, by decide⟩,
    ⟨23, 59, 59, 999000, by decide, by decide, by decide, by decide⟩, some .utc⟩

/-- Why a point in time has no distance from the epoch. -/
inductive DistanceError where
  | missing
  | unaware
deriving DecidableEq

def DistanceError.message : DistanceError → String
  | .missing => "unsupported operand type(s) for -: 'NoneType' and 'datetime.datetime'"
  | .unaware => "can't subtract offset-naive and offset-aware datetimes"

/-- Whole milliseconds from the epoch to a point in time, rounded down. -/
def DateTime.epochMillis (t : DateTime) : Except DistanceError Int :=
  if t.isAware then .ok ((t.position - epoch.position) / 1000) else .error .unaware

/-- The same for a point in time that may be missing. -/
def epochMillis : Option DateTime → Except DistanceError Int
  | some t => t.epochMillis
  | none => .error .missing

/-- The time between two points, neither of which belongs to it. -/
structure Window where
  start : DateTime
  finish : DateTime
deriving DecidableEq

namespace Window

/-- The window with given bounds, from the epoch and up to the latest time where they are missing. -/
def ofBounds (start finish : Option DateTime) : Window := ⟨start.getD epoch, finish.getD latest⟩

/-- A bound is missing in a window that is to be written. -/
inductive WriteError where
  | missing
deriving DecidableEq

/-- What is said about a window that cannot be written. -/
def WriteError.message : WriteError → String
  | .missing => "'NoneType' object has no attribute 'isoformat'"

/-- The window with given bounds, neither of which may be missing. -/
def ofBoth : Option DateTime → Option DateTime → Except WriteError Window
  | some start, some finish => .ok ⟨start, finish⟩
  | _, _ => .error .missing

def same (a b : Window) : Bool := a.start.same b.start && a.finish.same b.finish

/-- Whether a window is open at a time. The finish is looked at only if the start lies before the time. -/
def isOpenAt (w : Window) : Option DateTime → Except OrderError Bool
  | none => .error .missing
  | some t => do
    if ← w.start.before t then t.before w.finish else return false

theorem same_iff {a b : Window} : a.same b = true ↔ a.start.same b.start = true ∧ a.finish.same b.finish = true :=
  Bool.and_eq_true_iff

/-- Bounds and times that are the same instants, however they are written, cannot be told apart. -/
theorem isOpenAt_congr {a b : Window} {t u : DateTime} (bounds : a.same b = true) (times : t.same u = true) :
    a.isOpenAt (some t) = b.isOpenAt (some u) := by
  obtain ⟨start, finish⟩ := same_iff.1 bounds
  simp only [isOpenAt, DateTime.before_congr start times, DateTime.before_congr times finish]

end Window

end Rulebook.Time

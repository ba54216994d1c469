import Rulebook.Time.Calendar
import Rulebook.Text.Digits
import Rulebook.Word

/-!
# Points in time

A date and a time of day, with or without an offset from universal time. With an offset they denote an instant, and two
of them are compared as instants; without one they are compared as they are written, and only with each other.
`DateTime.ofParts` checks the parts of a point in time and names the first that is out of range. Parts that no word of 32
bits holds, and offsets of more days than can be counted, are told apart from those that no calendar or clock has.
-/

namespace Rulebook.Time

def microsPerSecond : Nat := 1000000

def microsPerDay : Nat := 86400 * microsPerSecond

/-- A time of day, to the microsecond. -/
structure TimeOfDay where
  hour : Nat
  minute : Nat
  second : Nat
  microsecond : Nat
  hour_lt : hour < 24
  minute_lt : minute < 60
  second_lt : second < 60
  microsecond_lt : microsecond < 1000000
deriving DecidableEq

/-- Microseconds since midnight. -/
def TimeOfDay.micros (t : TimeOfDay) : Nat :=
  ((t.hour * 60 + t.minute) * 60 + t.second) * microsPerSecond + t.microsecond

/-- How far local time is ahead of universal time, in microseconds: less than a day either way. -/
structure Offset where
  micros : Int
  range : -(microsPerDay : Int) < micros ∧ micros < microsPerDay
deriving DecidableEq

def Offset.utc : Offset := ⟨0, by decide⟩

/-- A date and a time of day, with an offset if the instant is meant. -/
structure DateTime where
  date : Date
  time : TimeOfDay
  offset : Option Offset
deriving DecidableEq

/-- A part of a point in time that is out of range. -/
inductive PartError where
  /-- An offset of too many days, rounded down. -/
  | span (days : Int)
  | offset (micros : Int)
  /-- A part other than the offset that no word of 32 bits holds. -/
  | number (n : Int)
  | year (year : Int)
  | month
  | day
  | hour
  | minute
  | second
  | microsecond
deriving DecidableEq

/-- A span of time by its days, seconds and microseconds, of which only the days may be negative and only parts other
than zero are written. -/
def durationText (micros : Int) : List Char :=
  let parts := [
    ("days=", micros / microsPerDay),
    ("seconds=", micros % microsPerDay / microsPerSecond),
    ("microseconds=", micros % microsPerSecond)].filter (·.2 ≠ 0)
  let body := [',', ' '].intercalate (parts.map fun p => p.1.toList ++ Text.integer p.2)
  "datetime.timedelta(".toList ++ (if parts.isEmpty then ['0'] else body) ++ [')']

/-- The greatest number of days, before or after, of which an offset is made. -/
def maxDays : Nat := 999999999

/-- What is said about a part that is out of range. -/
def PartError.message : PartError → String
  | .span days =>
    if fitsWord 32 days then
      "days=" ++ String.ofList (Text.integer days) ++ "; must have magnitude <= " ++ String.ofList (Text.decimal maxDays)
    else "Python int too large to convert to C int"
  | .offset micros =>
    "offset must be a timedelta strictly between -timedelta(hours=24) and timedelta(hours=24), not " ++
      String.ofList (durationText micros) ++ "."
  | .number n =>
    if !fitsWord 64 n then "Python int too large to convert to C long"
    else if n < 0 then "signed integer is less than minimum"
    else "signed integer is greater than maximum"
  | .year n => "year " ++ String.ofList (Text.integer n) ++ " is out of range"
  | .month => "month must be in 1..12"
  | .day => "day is out of range for month"
  | .hour => "hour must be in 0..23"
  | .minute => "minute must be in 0..59"
  | .second => "second must be in 0..59"
  | .microsecond => "microsecond must be in 0..999999"

/-- The parts of a point in time, not yet checked. -/
structure Parts where
  year : Int
  month : Int
  day : Int
  hour : Int
  minute : Int
  second : Int
  microsecond : Int
  /-- The offset in microseconds. -/
  offset : Option Int
deriving DecidableEq

/-- The parts other than the offset, in the order in which they are listed. -/
def Parts.numbers (p : Parts) : List Int := [p.year, p.month, p.day, p.hour, p.minute, p.second, p.microsecond]

def Offset.ofMicros (micros : Int) : Except PartError Offset :=
  let days := micros / microsPerDay
  if days < -(maxDays : Int) ∨ maxDays < days then .error (.span days)
  else if h : -(microsPerDay : Int) < micros ∧ micros < microsPerDay then .ok ⟨micros, h⟩ else .error (.offset micros)

def bounded (error : PartError) (bound : Nat) (n : Int) : Except PartError { k : Nat // k < bound } :=
  if h : 0 ≤ n ∧ n < bound then .ok ⟨n.toNat, by omega⟩ else .error error

namespace Date

def ofParts (year month day : Int) : Except PartError Date :=
  if hy : 1 ≤ year ∧ year ≤ 9999 then
    if hm : 1 ≤ month ∧ month ≤ 12 then
      if hd : 1 ≤ day ∧ day ≤ daysInMonth year.toNat month.toNat then
        .ok ⟨year.toNat, month.toNat, day.toNat, by omega, by omega, by omega⟩
      else .error .day
    else .error .month
  else .error (.year year)

end Date

namespace TimeOfDay

/-- The time of day with a given hour, minute, second and microsecond. -/
def ofParts (hour minute second microsecond : Int) : Except PartError TimeOfDay := do
  let ⟨h, hh⟩ ← bounded .hour 24 hour
  let ⟨m, hm⟩ ← bounded .minute 60 minute
  let ⟨s, hs⟩ ← bounded .second 60 second
  let ⟨u, hu⟩ ← bounded .microsecond 1000000 microsecond
  return ⟨h, m, s, u, hh, hm, hs, hu⟩

end TimeOfDay

namespace DateTime

/-- The point in time with given parts. The offset is checked first, then whether the other parts are too large for a
word, then the date, then the time of day. -/
def ofParts (p : Parts) : Except PartError DateTime := do
  let offset ← match p.offset with
    | none => pure none
    | some micros => some <$> Offset.ofMicros micros
  if let some n := p.numbers.find? (!fitsWord 32 ·) then throw (.number n)
  let date ← Date.ofParts p.year p.month p.day
  let time ← TimeOfDay.ofParts p.hour p.minute p.second p.microsecond
  return ⟨date, time, offset⟩

/-- Whether an instant is meant. -/
def isAware (t : DateTime) : Bool := t.offset.isSome

/-- Microseconds from the beginning of year 1 to what the clock on the wall shows. -/
def wallMicros (t : DateTime) : Int := t.date.dayNumber * microsPerDay + t.time.micros

/-- Where a point in time lies, in microseconds: in universal time if it has an offset, on the wall if it has none. -/
def position (t : DateTime) : Int := t.wallMicros - (t.offset.elim 0 Offset.micros)

/-- Whether two points in time are the same instant, or written the same if neither has an offset. -/
def same (a b : DateTime) : Bool := a.isAware == b.isAware && a.position == b.position

end DateTime

inductive OrderError where
  | missing
  | mixedAwareness
deriving DecidableEq

def OrderError.message : OrderError → String
  | .missing => "'<' not supported between instances of 'datetime.datetime' and 'NoneType'"
  | .mixedAwareness => "can't compare offset-naive and offset-aware datetimes"

namespace DateTime

def before (a b : DateTime) : Except OrderError Bool :=
  if a.isAware = b.isAware then .ok (a.position < b.position) else .error .mixedAwareness

theorem same_iff {a b : DateTime} : a.same b = true ↔ a.isAware = b.isAware ∧ a.position = b.position := by
  simp [same]

theorem same_refl (a : DateTime) : a.same a = true := same_iff.2 ⟨rfl, rfl⟩

theorem before_congr {a a' b b' : DateTime} (ha : a.same a' = true) (hb : b.same b' = true) :
    a.before b = a'.before b' := by
  simp only [before, (same_iff.1 ha).1, (same_iff.1 ha).2, (same_iff.1 hb).1, (same_iff.1 hb).2]

end DateTime

end Rulebook.Time

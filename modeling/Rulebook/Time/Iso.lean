import Rulebook.Time.DateTime

/-!
# The written form of points in time

`2024-02-29T23:59:59.000001+01:00`: microseconds are written only if they are not zero, and so are the seconds of an
offset; a point in time without an offset ends with its time of day.
-/

namespace Rulebook.Time

/-- Microseconds behind a point, unless they are zero. -/
def fractionChars (micros : Nat) : List Char :=
  if micros = 0 then [] else '.' :: Text.fixedWidth 10 6 micros

namespace Date

def chars (d : Date) : List Char :=
  Text.fixedWidth 10 4 d.year ++ '-' :: Text.fixedWidth 10 2 d.month ++ '-' :: Text.fixedWidth 10 2 d.day

end Date

namespace TimeOfDay

def chars (t : TimeOfDay) : List Char :=
  Text.fixedWidth 10 2 t.hour ++ ':' :: Text.fixedWidth 10 2 t.minute ++ ':' :: Text.fixedWidth 10 2 t.second ++
    fractionChars t.microsecond

end TimeOfDay

namespace Offset

/-- An offset in writing: its sign, hours and minutes, and what is left if it is not whole minutes. -/
def chars (o : Offset) : List Char :=
  let size := o.micros.natAbs
  let seconds := size / microsPerSecond
  let rest := if size % (60 * microsPerSecond) = 0 then []
    else ':' :: Text.fixedWidth 10 2 (seconds % 60) ++ fractionChars (size % microsPerSecond)
  (if o.micros < 0 then '-' else '+') :: Text.fixedWidth 10 2 (seconds / 3600) ++
    ':' :: Text.fixedWidth 10 2 (seconds / 60 % 60) ++ rest

end Offset

namespace DateTime

def chars (t : DateTime) : List Char :=
  t.date.chars ++ 'T' :: t.time.chars ++ t.offset.elim [] Offset.chars

def text (t : DateTime) : String := String.ofList t.chars

end DateTime

end Rulebook.Time

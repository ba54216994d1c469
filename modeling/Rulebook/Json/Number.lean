import Rulebook.Text.Digits

/-!
# Decimal numerals

A real number is kept as the decimal numeral that writes it, a coefficient times a power of ten without a trailing
zero in the coefficient, so that it is written again digit for digit.
-/

namespace Rulebook.Json

/-- The number `coefficient * 10 ^ exponent`, or its negative. -/
structure Decimal where
  negative : Bool
  coefficient : Nat
  exponent : Int
deriving DecidableEq, Inhabited

namespace Decimal

/-- Move the trailing zeros of a coefficient into the exponent. -/
def trim (coefficient : Nat) (exponent : Int) : Nat × Int :=
  if coefficient = 0 then (0, 0)
  else if coefficient % 10 = 0 then trim (coefficient / 10) (exponent + 1)
  else (coefficient, exponent)
termination_by coefficient
decreasing_by omega

/-- The numeral with a given value, without trailing zeros. -/
def ofParts (negative : Bool) (coefficient : Nat) (exponent : Int) : Decimal :=
  let (c, e) := trim coefficient exponent
  ⟨negative, c, e⟩

def isZero (x : Decimal) : Bool := x.coefficient == 0

/-- The whole number that a number is, if it is one and less than `10 ^ places` in size. -/
def whole? (x : Decimal) (places : Nat) : Option Int :=
  if 0 ≤ x.exponent ∧ x.exponent < places then
    let size := x.coefficient * Nat.pow 10 x.exponent.toNat
    if size < Nat.pow 10 places then some (if x.negative then -size else size) else none
  else none

/-- The digits of a number whose first digit counts `10 ^ scale`, with a decimal point. -/
def positional (digits : List Char) (scale : Int) : List Char :=
  if scale < 0 then '0' :: '.' :: (List.replicate (-scale - 1).toNat '0' ++ digits)
  else
    let whole := scale.toNat + 1
    let padded := digits ++ List.replicate (whole + 1 - digits.length) '0'
    padded.take whole ++ '.' :: padded.drop whole

/-- The digits of a number whose first digit counts `10 ^ scale`, with the scale behind an `e`. -/
def scientific (digits : List Char) (scale : Int) : List Char :=
  let places := Text.decimal scale.natAbs
  let fraction := if digits.length ≤ 1 then [] else '.' :: digits.drop 1
  digits.take 1 ++ fraction ++ ['e', if scale < 0 then '-' else '+'] ++
    (if places.length < 2 then '0' :: places else places)

/-- A number in writing: positional if its first digit counts at least `10 ^ -4` and less than `10 ^ 16`, and
scientific otherwise. -/
def chars (x : Decimal) : List Char :=
  let digits := Text.decimal x.coefficient
  let scale := if x.coefficient = 0 then 0 else x.exponent + digits.length - 1
  let body := if -4 ≤ scale ∧ scale < 16 then positional digits scale else scientific digits scale
  if x.negative then '-' :: body else body

end Decimal

end Rulebook.Json

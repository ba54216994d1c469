/-!
# Writing numbers

Numbers in decimal, and in a fixed number of places with leading zeros. Digits beyond nine are lower-case letters.
-/

namespace Rulebook.Text

/-- The last `width` digits of `n`, most significant first, with zeros in front where `n` is short. -/
def fixedWidth (base : Nat) : Nat → Nat → List Char
  | 0, _ => []
  | width + 1, n => fixedWidth base width (n / base) ++ [Nat.digitChar (n % base)]

/-- A natural number in decimal, without leading zeros. -/
def decimal (n : Nat) : List Char := Nat.toDigits 10 n

/-- A whole number in decimal, with a minus sign if it is negative. -/
def integer : Int → List Char
  | .ofNat n => decimal n
  | .negSucc n => '-' :: decimal (n + 1)

@[simp] theorem length_fixedWidth (base width n : Nat) : (fixedWidth base width n).length = width := by
  induction width generalizing n with
  | zero => rfl
  | succ width ih => simp [fixedWidth, ih]

example : fixedWidth 10 4 33 = ['0', '0', '3', '3'] := by decide

end Rulebook.Text

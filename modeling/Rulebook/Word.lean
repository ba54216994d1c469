/-!
# Numbers that fit a word

A signed word of `bits` bits holds the numbers from `-2 ^ (bits - 1)` up to `2 ^ (bits - 1)`, without the last.
-/

namespace Rulebook

/-- Whether a signed word of so many bits holds a number. -/
def fitsWord (bits : Nat) (n : Int) : Bool := -Int.pow 2 (bits - 1) ≤ n && n < Int.pow 2 (bits - 1)

end Rulebook

import Rulebook.Text.Blank

/-!
# Reading hexadecimal numerals

A numeral may stand between blanks, begin with a plus sign, and go on with `0x`, after which one underscore may follow.
Its digits are hexadecimal digits in either case, or decimal digits of any script, and a single underscore may stand
between two of them; the zero of `0x` may be of any script as well. `readHexadecimal?` gives the number, or nothing for
any other text.
-/

namespace Rulebook.Text

/-- Code points of the zeros of the decimal digits beyond ASCII (Unicode 14); each is followed by its one to nine. -/
def zeros : List Nat := [
  0x660, 0x6F0, 0x7C0, 0x966, 0x9E6, 0xA66, 0xAE6, 0xB66, 0xBE6, 0xC66, 0xCE6, 0xD66, 0xDE6, 0xE50, 0xED0,
  0xF20, 0x1040, 0x1090, 0x17E0, 0x1810, 0x1946, 0x19D0, 0x1A80, 0x1A90, 0x1B50, 0x1BB0, 0x1C40, 0x1C50,
  0xA620, 0xA8D0, 0xA900, 0xA9D0, 0xA9F0, 0xAA50, 0xABF0, 0xFF10, 0x104A0, 0x10D30, 0x11066, 0x110F0, 0x11136,
  0x111D0, 0x112F0, 0x11450, 0x114D0, 0x11650, 0x116C0, 0x11730, 0x118E0, 0x11950, 0x11C50, 0x11D50, 0x11DA0,
  0x16A60, 0x16AC0, 0x16B50, 0x1D7CE, 0x1D7D8, 0x1D7E2, 0x1D7EC, 0x1D7F6, 0x1E140, 0x1E2F0, 0x1E950, 0x1FBF0]

def digitValue? (c : Char) : Option Nat :=
  let n := c.toNat
  if '0' ≤ c ∧ c ≤ '9' then some (n - 0x30)
  else if 'a' ≤ c ∧ c ≤ 'f' then some (n - 0x61 + 10)
  else if 'A' ≤ c ∧ c ≤ 'F' then some (n - 0x41 + 10)
  else (zeros.find? fun z => z ≤ n ∧ n < z + 10).map (n - ·)

/-- The number written by digits, behind digits that write `value`; an underscore needs a digit on either side. -/
def readDigits? (value : Nat) : List Char → Option Nat
  | [] => some value
  | '_' :: c :: rest => do readDigits? (16 * value + (← digitValue? c)) rest
  | c :: rest => do readDigits? (16 * value + (← digitValue? c)) rest

/-- Whether two characters mark the base of a numeral: a zero and an `x` in either case. -/
def isBaseMark (zero x : Char) : Bool := digitValue? zero == some 0 && (x == 'x' || x == 'X')

/-- The text behind the marks that may precede the digits of a numeral. -/
def dropMarks (s : List Char) : List Char :=
  let unsigned := match s with
    | '+' :: rest => rest
    | _ => s
  match unsigned with
  | zero :: x :: rest =>
    if isBaseMark zero x then
      match rest with
      | '_' :: digits => digits
      | _ => rest
    else unsigned
  | _ => unsigned

def readHexadecimal? (s : List Char) : Option Nat :=
  match dropMarks (trimEnd isBlank (s.dropWhile isBlank)) with
  | [] => none
  | c :: rest => do readDigits? (← digitValue? c) rest

end Rulebook.Text

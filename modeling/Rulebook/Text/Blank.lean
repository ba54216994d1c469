/-!
# Blanks

Blanks are the characters of white space. Wherever text is trimmed, the four separators of information are space as
well.
-/

namespace Rulebook.Text

/-- Whether a character is white space. -/
def isBlank (c : Char) : Bool :=
  [0x9, 0xA, 0xB, 0xC, 0xD, 0x20, 0x85, 0xA0, 0x1680, 0x2000, 0x2001, 0x2002, 0x2003, 0x2004, 0x2005, 0x2006, 0x2007,
    0x2008, 0x2009, 0x200A, 0x2028, 0x2029, 0x202F, 0x205F, 0x3000].contains c.toNat

/-- Whether a character is white space or separates files, groups, records or units. -/
def isSpace (c : Char) : Bool := isBlank c || [0x1C, 0x1D, 0x1E, 0x1F].contains c.toNat

/-- A text without the characters at its end that satisfy `p`. -/
def trimEnd (p : Char → Bool) (s : List Char) : List Char := (s.reverse.dropWhile p).reverse

end Rulebook.Text

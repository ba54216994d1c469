import Rulebook.Text.Digits
import Rulebook.Text.Printable

/-!
# Quoted text

Text in quotes, on one line and in printable characters only. The quotes are apostrophes unless the text holds an
apostrophe and no double quote. The backslash and the quote in use follow a backslash; tab, line feed and carriage
return have short escapes; any other unprintable character is written by its code point in two, four or eight
hexadecimal digits.
-/

namespace Rulebook.Text

/-- The mark that encloses most quoted texts. -/
def apostrophe : Char := '\x27'

/-- The mark that encloses a text with apostrophes and no double quote. -/
def doubleQuote : Char := '\x22'

def quoteMark (s : List Char) : Char :=
  if s.contains apostrophe && !s.contains doubleQuote then doubleQuote else apostrophe

/-- A code point in the shortest of the three escapes that can hold it. -/
def escapeCode (n : Nat) : List Char :=
  if n < 0x100 then '\\' :: 'x' :: fixedWidth 16 2 n
  else if n < 0x10000 then '\\' :: 'u' :: fixedWidth 16 4 n
  else '\\' :: 'U' :: fixedWidth 16 8 n

/-- One character as it stands between the marks `mark`. -/
def quoteChar (mark c : Char) : List Char :=
  if c = '\\' ∨ c = mark then ['\\', c]
  else if c = '\t' then ['\\', 't']
  else if c = '\n' then ['\\', 'n']
  else if c = '\r' then ['\\', 'r']
  else if isPrintable c then [c]
  else escapeCode c.toNat

def quoted (s : List Char) : List Char :=
  quoteMark s :: (s.flatMap (quoteChar (quoteMark s)) ++ [quoteMark s])

def quote (s : String) : String := String.ofList (quoted s.toList)

end Rulebook.Text

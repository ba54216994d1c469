import Rulebook.Text.Hexadecimal
import Rulebook.Text.Quoted

/-!
# Identifiers

An identifier is a number of 128 bits. It is written as 32 hexadecimal digits in groups of 8, 4, 4, 4 and 12; read, it
may also carry the marks `urn:` and `uuid:`, braces around it and hyphens anywhere.
-/

namespace Rulebook

structure Uuid where
  bits : BitVec 128
deriving DecidableEq, Inhabited

namespace Uuid

inductive ParseError where
  /-- Without marks, braces and hyphens the text has not 32 characters. -/
  | badlyFormed
  /-- The 32 characters are no hexadecimal numeral. -/
  | notHexadecimal (numeral : List Char)
deriving DecidableEq

/-- What is said about a text that is no identifier; a numeral is quoted up to 200 characters. -/
def ParseError.message : ParseError → String
  | .badlyFormed => "badly formed hexadecimal UUID string"
  | .notHexadecimal numeral =>
    "invalid literal for int() with base 16: " ++ String.ofList ((Text.quoted numeral).take 200)

/-- Delete a pattern wherever it stands, from left to right; the first `skip` characters belong to a place where it
was found. -/
def deleteFrom (pattern : List Char) : Nat → List Char → List Char
  | _, [] => []
  | skip + 1, _ :: rest => deleteFrom pattern skip rest
  | 0, c :: rest =>
    if pattern.isPrefixOf (c :: rest) then deleteFrom pattern (pattern.length - 1) rest
    else c :: deleteFrom pattern 0 rest

/-- Delete a pattern wherever it stands, from left to right. -/
def deleteAll (pattern : String) (s : List Char) : List Char :=
  deleteFrom pattern.toList 0 s

def isBrace (c : Char) : Bool := c == '\x7b' || c == '\x7d'

/-- What is left of a text without marks, outer braces and hyphens. -/
def strip (s : List Char) : List Char :=
  let unmarked := deleteAll "uuid:" (deleteAll "urn:" s)
  let bare := ((unmarked.dropWhile isBrace).reverse.dropWhile isBrace).reverse
  bare.filter (· != '-')

def parse (text : String) : Except ParseError Uuid :=
  let numeral := strip text.toList
  if numeral.length = 32 then
    match Text.readHexadecimal? numeral with
    | some n => .ok ⟨BitVec.ofNat 128 n⟩
    | none => .error (.notHexadecimal numeral)
  else .error .badlyFormed

/-- The written form of an identifier, in lower case. -/
def chars (u : Uuid) : List Char :=
  let digits := Text.fixedWidth 16 32 u.bits.toNat
  digits.take 8 ++ '-' :: (digits.drop 8).take 4 ++ '-' :: (digits.drop 12).take 4 ++
    '-' :: (digits.drop 16).take 4 ++ '-' :: digits.drop 20

/-- The written form of an identifier, in lower case. -/
def text (u : Uuid) : String := String.ofList u.chars

/-- The written form of an identifier that may be missing. -/
def textOf : Option Uuid → String
  | some u => u.text
  | none => "None"

end Uuid

end Rulebook

import Rulebook.Json.Basic
import Rulebook.Text.Quoted

/-!
# Writing values

Two written forms of a value. `Json.line` is JSON on one line in ASCII, with a space behind every comma and colon.
`Json.display` is meant for people: a text stands for itself, and inside lists and objects it stands in quotes.
-/

namespace Rulebook

namespace Text

def listed (items : List (List Char)) : List Char :=
  [',', ' '].intercalate items

/-- A code unit of sixteen bits as an escape. -/
def escapeUnit (n : Nat) : List Char :=
  '\\' :: 'u' :: fixedWidth 16 4 n

/-- A character of a JSON string. Beyond U+FFFF it takes two escapes. -/
def jsonChar (c : Char) : List Char :=
  if c = '\\' ∨ c = doubleQuote then ['\\', c]
  else if c = '\n' then ['\\', 'n']
  else if c = '\r' then ['\\', 'r']
  else if c = '\t' then ['\\', 't']
  else if c = '\x0c' then ['\\', 'f']
  else if c = '\x08' then ['\\', 'b']
  else if 0x20 ≤ c.toNat ∧ c.toNat < 0x7F then [c]
  else if c.toNat < 0x10000 then escapeUnit c.toNat
  else
    escapeUnit (0xD800 + (c.toNat - 0x10000) / 0x400) ++ escapeUnit (0xDC00 + (c.toNat - 0x10000) % 0x400)

def jsonString (s : String) : List Char :=
  doubleQuote :: (s.toList.flatMap jsonChar ++ [doubleQuote])

end Text

namespace Json

mutual

def lineChars : Json → List Char
  | .null => ['n', 'u', 'l', 'l']
  | .bool true => ['t', 'r', 'u', 'e']
  | .bool false => ['f', 'a', 'l', 's', 'e']
  | .int n => Text.integer n
  | .real x => x.chars
  | .str s => Text.jsonString s
  | .arr items => '[' :: (Text.listed (lineItems items) ++ [']'])
  | .obj members => '\x7b' :: (Text.listed (lineMembers members) ++ ['\x7d'])

def lineItems : List Json → List (List Char)
  | [] => []
  | x :: xs => lineChars x :: lineItems xs

/-- The members of an object, each as JSON on one line. -/
def lineMembers : List (String × Json) → List (List Char)
  | [] => []
  | (name, x) :: rest => (Text.jsonString name ++ ':' :: ' ' :: lineChars x) :: lineMembers rest

end

def line (x : Json) : String := String.ofList (lineChars x)

mutual

/-- A value as it is shown inside a list or an object. -/
def shown : Json → List Char
  | .null => ['N', 'o', 'n', 'e']
  | .bool true => ['T', 'r', 'u', 'e']
  | .bool false => ['F', 'a', 'l', 's', 'e']
  | .int n => Text.integer n
  | .real x => x.chars
  | .str s => Text.quoted s.toList
  | .arr items => '[' :: (Text.listed (shownItems items) ++ [']'])
  | .obj members => '\x7b' :: (Text.listed (shownMembers members) ++ ['\x7d'])

def shownItems : List Json → List (List Char)
  | [] => []
  | x :: xs => shown x :: shownItems xs

def shownMembers : List (String × Json) → List (List Char)
  | [] => []
  | (name, x) :: rest => (Text.quoted name.toList ++ ':' :: ' ' :: shown x) :: shownMembers rest

end

/-- A value as it is shown to people: text as it is, anything else as inside a list. -/
def display : Json → String
  | .str s => s
  | x => String.ofList (shown x)

end Json

end Rulebook

import Rulebook.Text.Blank

/-!
# Entries of a settings file

An entry is a name, an equals sign and a value, or a name alone, which gives no value. It takes one line, but a name
between single quotes and a value between quotes may go on over several. Blank lines, remarks behind `#`, the word
`export` before a name, and space around names and values play no part. Lines that are no entry are skipped.

`Entry.read` reads one entry and leaves less of the text, `length_read_lt`, so that `Entry.readAll` comes to its end.
-/

namespace Rulebook.Settings

open Text (isSpace trimEnd)

structure Entry where
  name : List Char
  value : Option (List Char)
deriving DecidableEq

namespace Entry

def isInline (c : Char) : Bool := isSpace c && c != '\n'

/-- The text behind the space at its start that does not end a line. -/
def skipInline (s : List Char) : List Char := s.dropWhile isInline

def nextLine (s : List Char) : List Char := (s.dropWhile (· != '\n')).tail

/-- The text behind the word `export`, if space follows the word. -/
def skipExport (s : List Char) : List Char :=
  if s.take 6 = ['e', 'x', 'p', 'o', 'r', 't'] ∧ (s.drop 6).head?.any isInline then skipInline (s.drop 6) else s

/-- Whether a character may stand in a name without quotes. -/
def isNameCharacter (c : Char) : Bool := c != '=' && c != '#' && !isSpace c

/-- The name at the start of a text, which is not empty, and the text behind it. -/
def name? (s : List Char) : Option (List Char × List Char) :=
  match s with
  | '\x27' :: rest =>
    match rest.takeWhile (· != '\x27'), rest.dropWhile (· != '\x27') with
    | c :: name, _ :: behind => some (c :: name, behind)
    | _, _ => none
  | _ =>
    match s.takeWhile isNameCharacter with
    | c :: name => some (c :: name, s.dropWhile isNameCharacter)
    | [] => none

/-- What stands between quotes, from behind the first of them, and the text behind the second. A backslash takes the
character behind it along, so that a quote behind a backslash is not the second one. -/
def quoted? (quote : Char) : List Char → Option (List Char × List Char)
  | '\\' :: c :: rest => (quoted? quote rest).map fun p => ('\\' :: c :: p.1, p.2)
  | c :: rest => if c = quote then some ([], rest) else (quoted? quote rest).map fun p => (c :: p.1, p.2)
  | [] => none

/-- The letters behind a backslash between double quotes, and what they stand for. -/
def letters : List (Char × Char) := [
  ('a', '\x07'), ('b', '\x08'), ('f', '\x0c'), ('n', '\n'), ('r', '\r'), ('t', '\t'), ('v', '\x0b')]

/-- What a character behind a backslash stands for between quotes. -/
def escape? (quote c : Char) : Option Char :=
  if c = '\\' ∨ c = '\x27' then some c
  else if quote = '\x22' then if c = '\x22' then some c else letters.lookup c
  else none

/-- What is written between quotes. A backslash that escapes nothing stands for itself. -/
def unescape (quote : Char) : List Char → List Char
  | '\\' :: c :: rest =>
    match escape? quote c with
    | some d => d :: unescape quote rest
    | none => '\\' :: unescape quote (c :: rest)
  | c :: rest => c :: unescape quote rest
  | [] => []

/-- A text up to its remark. A `#` begins a remark only behind space. -/
def dropRemark : List Char → List Char
  | c :: '#' :: rest => if isSpace c then [] else c :: dropRemark ('#' :: rest)
  | c :: rest => c :: dropRemark rest
  | [] => []

/-- Whether values may stand between two of a character. -/
def isQuote (c : Char) : Bool := c == '\x27' || c == '\x22'

/-- The value at the start of a text, from behind the equals sign, and the text behind it. -/
def value? (s : List Char) : Option (List Char × List Char) :=
  match (skipInline s).head?.filter isQuote with
  | some quote => (quoted? quote (skipInline s).tail).map fun p => (unescape quote p.1, p.2)
  | none =>
    some (trimEnd isSpace ((dropRemark (s.takeWhile (· != '\n'))).dropWhile isSpace), s.dropWhile (· != '\n'))

/-- The entry, unless its line goes on with more than a remark, and the text behind that line. -/
def close (e : Entry) (s : List Char) : Option Entry × List Char :=
  match skipInline s with
  | [] => (some e, [])
  | c :: rest => (if c = '\n' ∨ c = '#' then some e else none, nextLine (c :: rest))

/-- The entry at the start of a text, or nothing if its line is skipped, and the text behind it. -/
def read (s : List Char) : Option Entry × List Char :=
  match name? (skipExport s) with
  | none => (none, nextLine s)
  | some (name, behind) =>
    match skipInline behind with
    | '=' :: rest =>
      match value? rest with
      | some (value, behind) => close ⟨name, some value⟩ behind
      | none => (none, nextLine rest)
    | behind => close ⟨name, none⟩ behind

/-! ### What reading leaves of a text -/

theorem length_skipInline_le (s : List Char) : (skipInline s).length ≤ s.length :=
  (List.dropWhile_suffix _).length_le

theorem length_nextLine_le (s : List Char) : (nextLine s).length ≤ s.length :=
  ((List.tail_suffix _).trans (List.dropWhile_suffix _)).length_le

theorem length_nextLine_lt {s : List Char} (h : s ≠ []) : (nextLine s).length < s.length := by
  cases s with
  | nil => exact absurd rfl h
  | cons c rest =>
    have : (rest.dropWhile (· != '\n')).length ≤ rest.length := (List.dropWhile_suffix _).length_le
    simp only [nextLine, List.dropWhile_cons, List.length_cons]
    split
    · simp only [List.length_tail]
      omega
    · simp

theorem length_skipExport_le (s : List Char) : (skipExport s).length ≤ s.length := by
  have := length_skipInline_le (s.drop 6)
  unfold skipExport
  split
  · simp only [List.length_drop] at this
    omega
  · exact Nat.le_refl _

theorem length_name_lt {s name behind : List Char} (h : name? s = some (name, behind)) :
    behind.length < s.length := by
  unfold name? at h
  split at h
  · next rest =>
    split at h
    · next c name' d behind' h1 h2 =>
      have hl := congrArg List.length (List.takeWhile_append_dropWhile (p := (· != '\x27')) (l := rest))
      simp only [h1, h2, List.length_append, List.length_cons] at hl ⊢
      cases h
      omega
    · cases h
  · split at h
    · next c name' h1 =>
      have hl := congrArg List.length (List.takeWhile_append_dropWhile (p := isNameCharacter) (l := s))
      simp only [h1, List.length_append, List.length_cons] at hl
      cases h
      omega
    · cases h

theorem length_quoted_lt {quote : Char} {s inner behind : List Char} (h : quoted? quote s = some (inner, behind)) :
    behind.length < s.length := by
  fun_induction quoted? quote s generalizing inner behind with
  | case1 c rest ih =>
    obtain ⟨p, hq, he⟩ := Option.map_eq_some_iff.1 h
    cases he
    have := ih hq
    simp only [List.length_cons]
    omega
  | case2 =>
    cases h
    simp
  | case3 c rest hs hc ih =>
    obtain ⟨p, hq, he⟩ := Option.map_eq_some_iff.1 h
    cases he
    have := ih hq
    simp only [List.length_cons]
    omega
  | case4 => cases h

theorem length_value_le {s value behind : List Char} (h : value? s = some (value, behind)) :
    behind.length ≤ s.length := by
  have hi := length_skipInline_le s
  unfold value? at h
  split at h
  · obtain ⟨p, hq, he⟩ := Option.map_eq_some_iff.1 h
    cases he
    have := length_quoted_lt hq
    simp only [List.length_tail] at this
    omega
  · cases h
    exact (List.dropWhile_suffix _).length_le

theorem length_close_le (e : Entry) (s : List Char) : (close e s).2.length ≤ s.length := by
  have := length_skipInline_le s
  unfold close
  split
  · simp
  · next c rest h =>
    have := length_nextLine_le (c :: rest)
    simp_all
    omega

theorem length_read_lt {s : List Char} (h : s ≠ []) : (read s).2.length < s.length := by
  unfold read
  split
  · exact length_nextLine_lt h
  · next name behind hn =>
    have hn := length_name_lt hn
    have he := length_skipExport_le s
    have hi := length_skipInline_le behind
    split
    · next rest hr =>
      rw [hr] at hi
      simp at hi
      split
      · next value behind' hv =>
        have := length_value_le hv
        have := length_close_le ⟨name, some value⟩ behind'
        omega
      · have := length_nextLine_le rest
        simp
        omega
    · have := length_close_le ⟨name, none⟩ (skipInline behind)
      omega

theorem length_read_dropWhile_lt {s rest : List Char} {c : Char} (h : s.dropWhile isSpace = c :: rest) :
    (read (c :: rest)).2.length < s.length := by
  have hs := (List.dropWhile_suffix isSpace (l := s)).length_le
  rw [h] at hs
  exact Nat.lt_of_lt_of_le (length_read_lt (List.cons_ne_nil c rest)) hs

def readAll (s : List Char) : List Entry :=
  match h : s.dropWhile isSpace with
  | [] => []
  | c :: rest =>
    have := length_read_dropWhile_lt h
    (read (c :: rest)).1.toList ++ readAll (read (c :: rest)).2
termination_by s.length

end Entry

end Rulebook.Settings

import Rulebook.Fields
import Rulebook.Settings.Entry

/-!
# Variables of a settings file

A settings file gives each of its variables the value of the last entry for it, or none if that entry has none. A byte
order mark at its start plays no part. A value may refer to variables, of the file as it is up to there or else of the
environment: `${name}` stands for the value of a variable, and `${name:-text}` for the text if there is no such
variable. `File.values` reads the lines of a file.
-/

namespace Rulebook.Settings.File

/-- A text without the byte order mark that it may begin with. -/
def dropByteOrderMark : List Char → List Char
  | '\uFEFF' :: rest => rest
  | s => s

/-- A text in which no line ends otherwise than with a line feed. -/
def unifyLineEnds : List Char → List Char
  | '\r' :: '\n' :: rest => '\n' :: unifyLineEnds rest
  | '\r' :: rest => '\n' :: unifyLineEnds rest
  | c :: rest => c :: unifyLineEnds rest
  | [] => []

/-- A variable that a value refers to, and what stands for it if there is no such variable. -/
structure Reference where
  name : List Char
  otherwise : List Char
deriving DecidableEq

/-- The reference at the start of a text, from behind its opening brace, and the text behind it. -/
def reference? (s : List Char) : Option (Reference × List Char) :=
  let name := s.takeWhile fun c => c != '\x7d' && c != ':'
  match s.dropWhile fun c => c != '\x7d' && c != ':' with
  | '\x7d' :: behind => some (⟨name, []⟩, behind)
  | ':' :: '-' :: rest =>
    match rest.dropWhile (· != '\x7d') with
    | _ :: behind => some (⟨name, rest.takeWhile (· != '\x7d')⟩, behind)
    | [] => none
  | _ => none

theorem length_reference_lt {s behind : List Char} {r : Reference} (h : reference? s = some (r, behind)) :
    behind.length < s.length := by
  have hs := (List.dropWhile_suffix (fun c => c != '\x7d' && c != ':') (l := s)).length_le
  simp only [reference?] at h
  split at h
  · next rest hd =>
    cases h
    simp only [hd, List.length_cons] at hs
    omega
  · next rest hd =>
    have hr := (List.dropWhile_suffix (· != '\x7d') (l := rest)).length_le
    split at h
    · next hb =>
      cases h
      simp only [hd, hb, List.length_cons] at hs hr
      omega
    · cases h
  · cases h

/-- A value in which each reference is replaced by what stands for it. What it is replaced by is no reference. -/
def expand (valueOf : String → Option String) : List Char → List Char
  | '$' :: '\x7b' :: rest =>
    match h : reference? rest with
    | some (r, behind) =>
      have := length_reference_lt h
      ((valueOf (String.ofList r.name)).map String.toList).getD r.otherwise ++ expand valueOf behind
    | none => '$' :: expand valueOf ('\x7b' :: rest)
  | c :: rest => c :: expand valueOf rest
  | [] => []
termination_by s => s.length

/-- What stands for the name of a variable: its value so far, empty if it has none, or else that in the environment. -/
def valueOf? (environment : Fields String) (known : Fields (Option String)) (name : String) : Option String :=
  match known.get? name with
  | some value => some (value.getD "")
  | none => environment.get? name

/-- The variables of a file, once an entry is added to those before it. -/
def add (environment : Fields String) (known : Fields (Option String)) (e : Entry) : Fields (Option String) :=
  known.set (String.ofList e.name) (e.value.map fun v => String.ofList (expand (valueOf? environment known) v))

def values (environment : Fields String) (lines : List String) : Fields (Option String) :=
  let text := lines.flatMap fun l => l.toList ++ ['\n']
  (Entry.readAll (unifyLineEnds (dropByteOrderMark text))).foldl (add environment) .empty

end Rulebook.Settings.File

import Rulebook.Json.Basic

/-!
# Checking the values of fields

A record with typed fields is made from JSON values. All fields are checked, and the faults of all of them are told, in
the order of the fields.
-/

namespace Rulebook

inductive FaultKind where
  | missing
  | notText
  | notObject
  /-- The value of a truth field is of a kind that never writes a truth value, or a number that no word holds. -/
  | notBoolean
  /-- The value of a truth field is a text or a number that writes no truth value. -/
  | unknownBoolean
deriving DecidableEq

def FaultKind.name : FaultKind → String
  | .missing => "missing"
  | .notText => "string_type"
  | .notObject => "dict_type"
  | .notBoolean => "bool_type"
  | .unknownBoolean => "bool_parsing"

structure Fault where
  field : String
  kind : FaultKind
deriving DecidableEq

namespace Fault

variable {α : Type}

def ofCheck : Except Fault α → List Fault
  | .ok _ => []
  | .error fault => [fault]

def checkText (field : String) : Option Json → Except Fault String
  | none => .error ⟨field, .missing⟩
  | some (.str s) => .ok s
  | some _ => .error ⟨field, .notText⟩

def checkObject (field : String) : Option Json → Except Fault (List (String × Json))
  | none => .error ⟨field, .missing⟩
  | some (.obj members) => .ok members
  | some _ => .error ⟨field, .notObject⟩

end Fault

end Rulebook

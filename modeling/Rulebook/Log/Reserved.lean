import Rulebook.Log.Record

/-!
# Names that a call to log keeps for itself

A caller tells an event with fields of any name, but a few names are not free. A call fails if a field has a name of
the call's own, even if the event would be dropped, and also if a field claims to be the record to write. What is given
under the names in `Record.steeringNames` is not told.
-/

namespace Rulebook.Log

inductive CallError where
  /-- A field has a name under which the call is given its logger or its event. -/
  | own (method : Method) (name : String)
  /-- A field has the name under which the call hands its method on. -/
  | handedOn
  /-- A field claims to be the record to write, and is none. -/
  | noRecord (value : Json)

namespace CallError

/-- The names under which a call is given its logger and its event. -/
def ownNames : List String := ["self", "event"]

/-- The name under which a call hands its method on. -/
def methodName : String := "method_name"

/-- The name of what claims to be the record to write. -/
def recordName : String := "_record"

def message : CallError → String
  | .own method name => "BoundLogger." ++ method.name ++ "() got multiple values for argument '" ++ name ++ "'"
  | .handedOn => "BoundLogger._proxy_to_logger() got multiple values for argument '" ++ methodName ++ "'"
  | .noRecord value => "'" ++ value.kindName ++ "' object has no attribute 'name'"

/-- What is wrong with the names of the fields of a call. -/
def ofNames? (method : Method) (names : List String) : Option CallError :=
  match names.find? (ownNames.contains ·) with
  | some name => some (.own method name)
  | none => if names.contains methodName then some .handedOn else none

/-- What is wrong with the fields of a call whose event is let through. -/
def ofRecord? (r : Record) : Option CallError :=
  match r.get? recordName with
  | none => none
  | some .null => none
  | some value => some (.noRecord value)

end CallError

/-- The names of fields that a caller is not free to use. -/
def reservedNames : List String :=
  CallError.ownNames ++ [CallError.methodName, CallError.recordName] ++ Record.steeringNames

end Rulebook.Log

import Rulebook.Fields
import Rulebook.Json.Printer
import Rulebook.Log.Level

/-!
# Log records

A record is what is known about an event when it is written: the caller's fields, the event, the name and severity
under which it was logged, the time, and the service, which is the part of the logger's name before its first dot.
-/

namespace Rulebook

def Json.kindName : Json → String
  | .null => "NoneType"
  | .bool _ => "bool"
  | .int _ => "int"
  | .real _ => "float"
  | .str _ => "str"
  | .arr _ => "list"
  | .obj _ => "dict"

namespace Log

/-- The fields of an event, in the order in which they are written. -/
abbrev Record := Fields Json

/-- Why no service can be told from the value under `logger`. -/
inductive ServiceError where
  | unsearchable (logger : Json)
  | unsplittable (logger : Json)

def ServiceError.message : ServiceError → String
  | .unsearchable logger => "argument of type '" ++ logger.kindName ++ "' is not iterable"
  | .unsplittable logger => "'" ++ logger.kindName ++ "' object has no attribute 'split'"

/-- The service of a logger with a dot in its name. -/
def service? (logger : String) : Option String :=
  if logger.toList.contains '.' then some (String.ofList (logger.toList.takeWhile (· != '.'))) else none

def isDot : Json → Bool
  | .str s => s == "."
  | _ => false

namespace Record

def setService (r : Record) (logger : String) : Record :=
  match service? logger with
  | some service => r.set "service" (.str service)
  | none => r

/-- Set the service of the logger that the record tells. -/
def addService (r : Record) : Except ServiceError Record :=
  match r.get? "logger" with
  | none => .ok r
  | some (.str logger) => .ok (r.setService logger)
  | some (.arr items) => if items.any isDot then .error (.unsplittable (.arr items)) else .ok r
  | some (.obj members) => if members.any (·.1 == ".") then .error (.unsplittable (.obj members)) else .ok r
  | some logger => .error (.unsearchable logger)

def addTimestamp (r : Record) (clock : Json) : Record := r.set "timestamp" clock

/-- Set the event, unless it is null. -/
def setEvent (r : Record) : Json → Record
  | .null => r
  | event => r.set "event" event

/-- The names of values that steer how an event is written: arguments for its text, a stack and an exception. -/
def steeringNames : List String := ["positional_args", "stack_info", "exc_info"]

/-- A record without the values that steer how it is written. Arguments that are null stay. What such values would add to
the record where they stand for something is left out: the arguments in the text of the event, a stack, an exception. -/
def dropSteering (r : Record) : Record :=
  match r.get? "positional_args" with
  | some .null => (r.erase "stack_info").erase "exc_info"
  | _ => steeringNames.foldl Fields.erase r

/-- The record of an event. The time takes its place before the service does. -/
def ofEvent (fields : List (String × Json)) (event : Json) (logger : String) (severity : Severity) (clock : Json) :
    Record :=
  let named := (setEvent (Fields.ofPairs fields) event).set "logger" (.str logger)
  let timed := addTimestamp (dropSteering (named.set "level" (.str severity.name))) clock
  addTimestamp (setService timed logger) clock

def line (r : Record) : String := (Json.obj r.entries).line

end Record

end Log

end Rulebook

import Rulebook.Log.Record

/-!
# Processors of events

An event that is let through is worked into a record by one processor after another. All of them read and write the
same record: two write the time under one name, and the service is told from the name of the logger that another one
wrote. What a caller gives under `Record.steeringNames` is taken out on the way. What stands before these processors and
drops events by their level is in `Logger.log`, and the renderer stands behind them.
-/

namespace Rulebook.Log

/-- What processors know of an event besides what its record tells: its logger and severity, and the time, first as a
stamp and then as the clock reads it. -/
structure Occasion where
  logger : String
  severity : Severity
  stamp : Json
  clock : Json

inductive Processor where
  | addLogger
  | addLevel
  | formatArguments
  | addStamp
  | renderStack
  | renderException
  /-- Decode bytes, of which a record of JSON values holds none. -/
  | decodeBytes
  | addService
  | addTimestamp
deriving DecidableEq

namespace Processor

/-- All processors between the one that drops events by their level and the renderer, in the order in which they work. -/
def pipeline : List Processor :=
  [.addLogger, .addLevel, .formatArguments, .addStamp, .renderStack, .renderException, .decodeBytes, .addService,
    .addTimestamp]

/-- Work on a record with a processor. The values that steer are only taken out. Where they stand for something, the
arguments would also be put into the text of the event, and a stack or an exception would be told in the record; of these
texts nothing is said here. -/
def process (o : Occasion) (r : Record) : Processor → Except ServiceError Record
  | .addLogger => .ok (r.set "logger" (.str o.logger))
  | .addLevel => .ok (r.set "level" (.str o.severity.name))
  | .formatArguments =>
    match r.get? "positional_args" with
    | some .null => .ok r
    | _ => .ok (r.erase "positional_args")
  | .addStamp => .ok (r.set "timestamp" o.stamp)
  | .renderStack => .ok (r.erase "stack_info")
  | .renderException => .ok (r.erase "exc_info")
  | .decodeBytes => .ok r
  | .addService => r.addService
  | .addTimestamp => .ok (r.addTimestamp o.clock)

/-- Work on a record with some processors, one after another, until one fails. -/
def processAll (processors : List Processor) (o : Occasion) (r : Record) : Except ServiceError Record :=
  processors.foldlM (process o) r

end Processor

end Rulebook.Log

import Rulebook.Text.UpperCase

/-!
# Severities and thresholds

An event has one of five severities, and is let through if its number is not below the threshold. There is a method of
logging for each severity, and a second one for the highest. Thresholds have names, which may be written in any case.
-/

namespace Rulebook.Log

inductive Severity where
  | debug
  | info
  | warning
  | error
  | critical
deriving DecidableEq, Inhabited

namespace Severity

/-- The number that is compared with a threshold. -/
def level : Severity → Nat
  | .debug => 10
  | .info => 20
  | .warning => 30
  | .error => 40
  | .critical => 50

/-- The name of a severity in a log line. -/
def name : Severity → String
  | .debug => "debug"
  | .info => "info"
  | .warning => "warning"
  | .error => "error"
  | .critical => "critical"

end Severity

inductive Method where
  | debug
  | info
  | warning
  | error
  | critical
  | fatal
deriving DecidableEq

namespace Method

/-- The severity of an event that is logged by a method. -/
def severity : Method → Severity
  | .debug => .debug
  | .info => .info
  | .warning => .warning
  | .error => .error
  | .critical => .critical
  | .fatal => .critical

def name : Method → String
  | .fatal => "fatal"
  | m => m.severity.name

/-- The method with a name; `warn` is a short name. -/
def ofName? : String → Option Method
  | "debug" => some .debug
  | "info" => some .info
  | "warning" => some .warning
  | "warn" => some .warning
  | "error" => some .error
  | "critical" => some .critical
  | "fatal" => some .fatal
  | _ => none

end Method

def thresholds : List (String × Nat) := [
  ("CRITICAL", 50), ("FATAL", 50), ("ERROR", 40), ("WARNING", 30), ("WARN", 30), ("INFO", 20), ("DEBUG", 10),
  ("NOTSET", 0)]

/-- The threshold that a text names, in any case but without blanks around it. -/
def threshold? (name : String) : Option Nat := thresholds.lookup (Text.upper name)

end Rulebook.Log

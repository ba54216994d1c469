import Rulebook.Driver
import Rulebook.Json.Basic
import Rulebook.Log.Level
import Rulebook.Uuid

/-!
# Events worth noting

What a cache of drivers and a rule note about their work. The events of a cache since it was last cleared tell which
drivers it holds.
-/

namespace Rulebook.Log

inductive Event where
  | cached (driver : Driver)
  | cleared
  /-- All drivers of a rule were replaced by those of a cache. -/
  | replaced (rule : Option Uuid) (drivers inserted : Nat)
deriving DecidableEq

namespace Event

def title : Event → String
  | .cached _ => "Driver cached"
  | .cleared => "Driver cache cleared"
  | .replaced .. => "Rule drivers replaced from cache"

def severity : Event → Severity
  | .cached _ => .debug
  | .cleared => .info
  | .replaced .. => .debug

def fields : Event → List (String × Json)
  | .cached d => [("value", .str d.value), ("type", .str d.type.name)]
  | .cleared => []
  | .replaced rule drivers inserted =>
    [("rule_id", .str (Uuid.textOf rule)), ("drivers", .nat drivers), ("inserted", .nat inserted)]

end Event

end Rulebook.Log

import Rulebook.Text.Quoted

/-!
# Drivers

A driver is one positional condition of a rule: a value of some type, or the wildcard, which any input meets. Drivers
are equal if their values and types are. A rule holds an `Instance`, one of many equal copies of a driver, which its
tag tells apart.
-/

namespace Rulebook

/-- What kind of condition the value of a driver states. -/
inductive DriverType where
  | string
  | regex
  | valueGroup
  | dateRange
  | integerRange
deriving DecidableEq, Inhabited

namespace DriverType

/-- All types, in the order in which they are listed. -/
def all : List DriverType := [.string, .regex, .valueGroup, .dateRange, .integerRange]

def name : DriverType → String
  | .string => "string"
  | .regex => "regex"
  | .valueGroup => "value_group"
  | .dateRange => "date_range"
  | .integerRange => "integer_range"

def constantName : DriverType → String
  | .string => "STRING"
  | .regex => "REGEX"
  | .valueGroup => "VALUE_GROUP"
  | .dateRange => "DATE_RANGE"
  | .integerRange => "INTEGER_RANGE"

structure Unknown where
  name : String
deriving DecidableEq

def Unknown.message (e : Unknown) : String :=
  Text.quote e.name ++ " is not a valid InputValueType"

def ofName (name : String) : Except Unknown DriverType :=
  match all.find? (·.name == name) with
  | some t => .ok t
  | none => .error ⟨name⟩

end DriverType

/-- A condition on one input. -/
structure Driver where
  value : String
  type : DriverType
deriving DecidableEq, Inhabited

namespace Driver

/-- The value that any input meets. -/
def wildcardValue : String := "*"

def wildcard (type : DriverType) : Driver := ⟨wildcardValue, type⟩

/-- Whether any input meets the driver; the type plays no part. -/
def isWildcard (d : Driver) : Bool := d.value == wildcardValue

end Driver

/-- One copy of a driver. Equal drivers with different tags are different copies. -/
structure Instance where
  driver : Driver
  tag : Nat
deriving DecidableEq, Inhabited

end Rulebook

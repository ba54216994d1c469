import Rulebook.Json.Number

/-!
# Values without a fixed shape

Details of a problem and the fields of a log line may hold any JSON value. Objects keep their members in order.
-/

namespace Rulebook

/-- A JSON value. Whole numbers are exact; other numbers are kept as written. -/
inductive Json where
  | null
  | bool (value : Bool)
  | int (value : Int)
  | real (value : Json.Decimal)
  | str (value : String)
  | arr (items : List Json)
  | obj (members : List (String × Json))
deriving Inhabited

namespace Json

def ofText? : Option String → Json
  | some s => .str s
  | none => .null

def nat (n : Nat) : Json := .int n

/-- The values that stand for nothing: null, false, zero and whatever is empty. -/
def isFalsy : Json → Bool
  | .null => true
  | .bool b => !b
  | .int n => n == 0
  | .real x => x.isZero
  | .str s => s.isEmpty
  | .arr items => items.isEmpty
  | .obj members => members.isEmpty

end Json

end Rulebook

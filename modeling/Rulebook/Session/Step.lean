import Rulebook.Rule.Normalize
import Rulebook.Spec

/-!
# Steps of a session and their replies

A session makes caches, drivers, sources and rules under names and works with them step by step.
-/

namespace Rulebook.Session

inductive Other where
  | rule (name : String)
  | nothing
  | text (text : String)
  | identifier (text : String)
deriving DecidableEq

/-- What a caller may try to change though it never changes. -/
inductive Target where
  | rule
  | output
  | driver
  | range
deriving DecidableEq

inductive Step where
  | makeCache (name : String) (limits : Limits)
  | makeDriver (name : String) (spec : DriverSpec)
  | makeSource (name : String) (drivers : List (DriverSpec × Nat)) (outputs : List (String × Option String))
  /-- Empty a source if `clear` is set, and then add to it. -/
  | mutateSource (name : String) (clear : Bool) (drivers : List (DriverSpec × Nat))
      (outputs : List (String × Option String))
  | makeRule (name : String) (spec : RuleSpec)
  | get (cache value type : String)
  | put (cache : String) (spec : DriverSpec)
  | contains (cache value type : String)
  | clear (cache : String)
  | count (cache : String)
  | normalize (rule cache : String)
  | describe (rule : String)
  | tags (rule : String)
  | weight (rule : String)
  | outputs (rule : String)
  | isActive (rule : String) (time : Option TimeSpec)
  | duplication (rule : String) (other : Option String)
  | same (rule : String) (other : Other)
  | distinct (rules : List String)
  | assign (rule : String) (target : Target)
deriving DecidableEq

/-- Why a caller cannot change something of a rule. -/
inductive AssignError where
  | unknownRule (name : String)
  | noDriver
  | immutable (target : Target)
deriving DecidableEq

inductive StepError where
  | spec (error : SpecError)
  | order (error : Time.OrderError)
  | assign (error : AssignError)
deriving DecidableEq

/-- What a step that does not fail replies. Replies of a cache come with its counts, and instances are told by tag. -/
inductive Reply where
  | done
  | tag (tag : Nat)
  | tags (tags : List Nat)
  | sizes (instances outputs : Nat)
  | found (tag : Option Nat) (counts : Cache.Counts)
  | given (tag : Nat) (counts : Cache.Counts)
  | held (isHeld : Bool) (counts : Cache.Counts)
  | cleared (counts : Cache.Counts)
  | counted (counts : Cache.Counts)
  | normalized (tags : List Nat) (error : Option RefusedDriver) (counts : Cache.Counts)
  | description (rule : Rule)
  | weight (weight : Nat)
  | outputs (outputs : Fields (Option String))
  | verdict (isSo : Bool)
  | duplication (duplication : Duplication)
  | same (isSame : Bool)
  | names (names : List String)

end Rulebook.Session

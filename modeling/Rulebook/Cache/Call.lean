import Rulebook.Cache

/-!
# Calls of a cache

All that a client may ask of a cache, what it is answered, and how the cache goes on. Looking a driver up is counted;
asking whether a driver is held, how many are, or for the counts leaves the cache as it is.
-/

namespace Rulebook.Cache

open Log (Event)

inductive Call where
  | get (d : Driver)
  | put (i : Instance)
  | contains (d : Driver)
  | clear
  | size
  | counts
deriving DecidableEq

inductive Answer where
  | found (i : Option Instance)
  | done
  | held (isHeld : Bool)
  | size (size : Nat)
  | counts (counts : Counts)
deriving DecidableEq

/-- What a call is answered, the cache after it, and what it noted. -/
structure Performed where
  answer : Answer
  cache : Cache
  events : List Event

def perform (refuses : Policy) (c : Cache) : Call → Performed
  | .get d => ⟨.found (c.get d).1, (c.get d).2, []⟩
  | .put i => ⟨.done, (c.put refuses i).1, (c.put refuses i).2⟩
  | .contains d => ⟨.held (c.contains d), c, []⟩
  | .clear => ⟨.done, c.clear.1, c.clear.2⟩
  | .size => ⟨.size c.size, c, []⟩
  | .counts => ⟨.counts c.counts, c, []⟩

end Rulebook.Cache

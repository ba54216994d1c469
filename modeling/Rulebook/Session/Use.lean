import Rulebook.Cache.Call
import Rulebook.Session.World

/-!
# How sessions use caches

What the steps of a session do with its caches: they call them, and they normalise rules through them. Caches and rules
are told by their places, which they keep for good.
-/

namespace Rulebook.Session

inductive Use where
  | call (call : Cache.Call)
  | normalize (rule : Nat)
deriving DecidableEq

namespace World

/-- The place of the cache that a step uses, and what it does with it. A step that fails before it comes to a cache
uses none. -/
def use? (w : World) : Step → Option (Nat × Use)
  | .get cache value type => do
    let (place, _) ← w.stores.find? cache
    let t ← (DriverType.ofName type).toOption
    return (place, .call (.get ⟨value, t⟩))
  | .put cache spec => do
    let (place, _) ← w.stores.find? cache
    let i ← ((spec.build w.instances.get?).runFrom w.nextTag).1.toOption
    return (place, .call (.put i))
  | .contains cache value type => do
    let (place, _) ← w.stores.find? cache
    let t ← (DriverType.ofName type).toOption
    return (place, .call (.contains ⟨value, t⟩))
  | .clear cache => do
    let (place, _) ← w.stores.find? cache
    return (place, .call .clear)
  | .count cache => do
    let (place, _) ← w.stores.find? cache
    return (place, .call .counts)
  | .normalize rule cache => do
    let (rulePlace, _) ← w.rules.find? rule
    let (place, _) ← w.stores.find? cache
    return (place, .normalize rulePlace)
  | _ => none

def uses (w : World) : List Step → List (Nat × Use)
  | [] => []
  | s :: rest => (w.use? s).toList ++ (w.turn s).world.uses rest

/-- The instances in the slots of the rules at some places. -/
def slotsOf (w : World) (places : List Nat) : List Instance :=
  (places.filterMap (w.rules.items[·]?)).flatMap Rule.slots

end World

end Rulebook.Session

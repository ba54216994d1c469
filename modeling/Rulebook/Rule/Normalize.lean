import Rulebook.Cache
import Rulebook.Problem
import Rulebook.Rule.Basic

/-!
# Normalising rules

To normalise a rule is to replace the instance in each of its slots by the one that a cache holds of the same driver,
after putting the slot's own instance into the cache if it holds none. If the cache refuses the instance, normalising
stops there: slots before that one stay replaced, and the others as they were.
-/

namespace Rulebook

open Log (Event)

/-- How far the slots of a rule were normalised, with the cache after it and what was noted. -/
structure Pass where
  slots : List Instance
  cache : Cache
  events : List Event
  /-- How many instances were put into the cache. -/
  inserted : Nat
  /-- The driver that the cache did not hold after it was put in, if there was one. -/
  refused : Option Driver
deriving DecidableEq

namespace Pass

/-- A pass over all slots that begins with one more slot, where events were noted and instances put in. -/
def behind (p : Pass) (i : Instance) (events : List Event) (inserted : Nat) : Pass :=
  { p with slots := i :: p.slots, events := events ++ p.events, inserted := inserted + p.inserted }

def run (refuses : Policy) : List Instance → Cache → Pass
  | [], c => ⟨[], c, [], 0, none⟩
  | s :: rest, c =>
    match c.get s.driver with
    | (some i, c) => (run refuses rest c).behind i [] 0
    | (none, c) =>
      let tried := c.put refuses s
      match tried.1.get s.driver with
      | (some i, c) => (run refuses rest c).behind i tried.2 1
      | (none, c) => ⟨s :: rest, c, tried.2, 1, some s.driver⟩

end Pass

/-- A driver of a rule was not in a cache after it was put in. -/
structure RefusedDriver where
  rule : Option Uuid
  driver : Driver
deriving DecidableEq

/-- The problem that is raised about a refused driver. -/
def RefusedDriver.problem (e : RefusedDriver) : Problem :=
  .ofClass .driverCache "Driver missing from cache after insert" [
    ("rule_id", .str (Uuid.textOf e.rule)), ("value", .str e.driver.value), ("type", .str e.driver.type.name)]

/-- A rule and a cache after the rule was normalised through the cache, wholly or in part. -/
structure Normalized where
  rule : Rule
  cache : Cache
  events : List Event
  error : Option RefusedDriver
deriving DecidableEq

/-- Normalise a rule. That all its slots were replaced is noted last. -/
def Rule.normalize (refuses : Policy) (r : Rule) (c : Cache) : Normalized :=
  let pass := Pass.run refuses r.slots c
  let rule := { r with slots := pass.slots }
  match pass.refused with
  | none => ⟨rule, pass.cache, pass.events ++ [.replaced r.identifier pass.slots.length pass.inserted], none⟩
  | some d => ⟨rule, pass.cache, pass.events, some ⟨r.identifier, d⟩⟩

end Rulebook

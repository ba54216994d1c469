import Rulebook.Cache.Call
import Rulebook.Rule.Normalize

/-!
# A cache and its rules

The course of one cache and of the rules that are normalised through it, while clients call the cache in between. Why
the cache refuses a driver is left open: every step has a policy of its own.
-/

namespace Rulebook

open Log (Event)

/-- A cache, and rules by their places, which they keep for good. -/
structure Pool where
  cache : Cache
  rules : List Rule
deriving DecidableEq

namespace Pool

inductive Act where
  | call (call : Cache.Call)
  | normalize (place : Nat)
  /-- Normalise a rule through another cache. -/
  | normalizeElsewhere (place : Nat) (other : Cache)
  /-- Take a new rule in, behind all others. -/
  | join (rule : Rule)
deriving DecidableEq

structure Step where
  act : Act
  /-- What the cache that is worked on refuses meanwhile. -/
  refuses : Policy

/-- A pool after a step, what its cache and the rule that was normalised through it noted, and what went wrong. -/
structure Turn where
  pool : Pool
  events : List Event
  error : Option RefusedDriver
deriving DecidableEq

def idle (p : Pool) : Turn := ⟨p, [], none⟩

def turn (p : Pool) (s : Step) : Turn :=
  match s.act with
  | .call call =>
    let d := p.cache.perform s.refuses call
    ⟨{ p with cache := d.cache }, d.events, none⟩
  | .normalize place =>
    match p.rules[place]? with
    | some r =>
      let n := r.normalize s.refuses p.cache
      ⟨⟨n.cache, p.rules.set place n.rule⟩, n.events, n.error⟩
    | none => p.idle
  | .normalizeElsewhere place other =>
    match p.rules[place]? with
    | some r =>
      let n := r.normalize s.refuses other
      ⟨{ p with rules := p.rules.set place n.rule }, [], n.error⟩
    | none => p.idle
  | .join r => ⟨{ p with rules := p.rules ++ [r] }, [], none⟩

def after (p : Pool) (steps : List Step) : Pool := steps.foldl (fun p s => (p.turn s).pool) p

/-- All that is noted in a run of steps. -/
def log (p : Pool) : List Step → List Event
  | [] => []
  | s :: rest =>
    let t := p.turn s
    t.events ++ t.pool.log rest

end Pool

end Rulebook

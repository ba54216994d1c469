import Rulebook.Cache.Call
import Rulebook.Log.Setup
import Rulebook.Rule.Normalize

/-!
# A site with any number of loggers

A process in which loggers and caches are made at any time. Every cache has a logger of its own, and all rules share
one. Loggers and caches are told by their places, which they keep for good. The moments of a site are what bears on how
its events are written: when it was configured, and when which logger was used and what it emitted.
-/

namespace Rulebook.Log

inductive Moment where
  | configured (asJson : Bool)
  /-- The logger at a place was used, and emitted an event or none. -/
  | used (logger : Nat) (emission : Option Emission)

structure Site where
  setup : Setup
  loggers : List Logger
  /-- The caches, each with the place of its logger. -/
  caches : List (Cache × Nat)

namespace Site

/-- A site that was never configured. The first logger is that of the rules. -/
def initial : Site := ⟨.initial, [.ofName "decisiontree.domain.rule"], []⟩

/-- The place of the logger of the rules. -/
def ruleLogger : Nat := 0

inductive Step where
  | configure (service threshold : String) (asJson : Bool)
  | makeLogger (name : String)
  | makeCache
  | log (logger : Nat) (method : Method) (event : Json) (fields : List (String × Json)) (clock : Json)
  | call (cache : Nat) (refuses : Policy) (call : Cache.Call) (clock : Json)
  /-- Normalise a rule through a cache. -/
  | normalize (rule : Rule) (cache : Nat) (refuses : Policy) (clock : Json)

/-- A site after a step, and the moments of the step. -/
structure Turn where
  site : Site
  moments : List Moment

def idle (w : Site) : Turn := ⟨w, []⟩

/-- Let the logger at a place say something, if there is one. -/
def use (w : Site) (place : Nat) (say : Logger → Logger × Option Emission) : Turn :=
  match w.loggers[place]? with
  | some l => ⟨{ w with loggers := w.loggers.set place (say l).1 }, [.used place (say l).2]⟩
  | none => w.idle

/-- The place of the logger of an event that a cache or a rule noted, from that of the cache. -/
def speaker (cacheLogger : Nat) : Event → Nat
  | .replaced .. => ruleLogger
  | _ => cacheLogger

def note (w : Site) (cacheLogger : Nat) (clock : Json) (e : Event) : Turn :=
  w.use (speaker cacheLogger e) fun l => l.log w.setup e.severity (.str e.title) e.fields clock

def noteAll (w : Site) (cacheLogger : Nat) (clock : Json) : List Event → Turn
  | [] => w.idle
  | e :: rest =>
    let t := w.note cacheLogger clock e
    let more := t.site.noteAll cacheLogger clock rest
    ⟨more.site, t.moments ++ more.moments⟩

def turn (w : Site) : Step → Turn
  | .configure service threshold asJson =>
    match w.setup.configure service threshold asJson with
    | .ok setup => ⟨{ w with setup }, [.configured asJson]⟩
    | .error _ => w.idle
  | .makeLogger name => ⟨{ w with loggers := w.loggers ++ [.ofName name] }, []⟩
  | .makeCache =>
    ⟨{ w with
      loggers := w.loggers ++ [.ofName "decisiontree.cache.drivers"]
      caches := w.caches ++ [(.empty, w.loggers.length)] }, []⟩
  | .log logger method event fields clock =>
    w.use logger fun l =>
      let (l, outcome) := l.call w.setup method event fields clock
      (l, outcome.toOption.join)
  | .call cache refuses call clock =>
    match w.caches[cache]? with
    | some (c, logger) =>
      let d := c.perform refuses call
      { w with caches := w.caches.set cache (d.cache, logger) }.noteAll logger clock d.events
    | none => w.idle
  | .normalize rule cache refuses clock =>
    match w.caches[cache]? with
    | some (c, logger) =>
      let n := rule.normalize refuses c
      { w with caches := w.caches.set cache (n.cache, logger) }.noteAll logger clock n.events
    | none => w.idle

def after (w : Site) (steps : List Step) : Site := steps.foldl (fun w s => (w.turn s).site) w

/-- The moments of a run of steps. -/
def trace (w : Site) : List Step → List Moment
  | [] => []
  | s :: rest =>
    let t := w.turn s
    t.moments ++ t.site.trace rest

end Site

end Rulebook.Log

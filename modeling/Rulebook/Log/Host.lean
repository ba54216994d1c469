import Rulebook.Log.Setup
import Rulebook.Rule.Normalize
import Rulebook.Spec

/-!
# A process with rules that logs

A host has loggers under handles, one cache of drivers, and two loggers of its own: one for its cache and one for its
rules. What the cache and the rules note is logged by them.
-/

namespace Rulebook.Log

structure Host where
  setup : Setup
  handles : Fields Logger
  cacheLogger : Logger
  ruleLogger : Logger
  cache : Cache
  nextTag : Nat

namespace Host

def initial : Host :=
  ⟨.initial, .empty, .ofName "decisiontree.cache.drivers", .ofName "decisiontree.domain.rule", .empty, 0⟩

/-- The logger by which an event is logged. -/
inductive Speaker where
  | named (name : String)
  | handle (handle : String)
deriving DecidableEq

inductive Step where
  | configure (service threshold : String) (asJson : Bool)
  | state
  | logger (name handle : String)
  | log (speaker : Speaker) (method : Method) (event : Json) (fields : List (String × Json)) (clock : Json)
  /-- Make a rule and normalise it through the host's cache. -/
  | normalize (spec : RuleSpec) (clock : Json)
  | clear (clock : Json)

inductive StepError where
  | threshold (error : UnknownThreshold)
  | spec (error : SpecError)
  | call (error : CallError)

/-- What comes of a step: the host after it, the state of logging if it was asked for, and what was emitted. -/
structure Turn where
  host : Host
  reply : Except StepError (Option Setup)
  emissions : List Emission

/-- Log what a cache or a rule noted, by the logger of the one or the other. -/
def note (h : Host) (clock : Json) (e : Event) : Host × Option Emission :=
  let say (l : Logger) := l.log h.setup e.severity (.str e.title) e.fields clock
  match e with
  | .replaced .. =>
    let (l, emission) := say h.ruleLogger
    ({ h with ruleLogger := l }, emission)
  | _ =>
    let (l, emission) := say h.cacheLogger
    ({ h with cacheLogger := l }, emission)

def noteAll (h : Host) (clock : Json) : List Event → Host × List Emission
  | [] => (h, [])
  | e :: rest =>
    let (h, emission) := h.note clock e
    let (h, emissions) := h.noteAll clock rest
    (h, emission.toList ++ emissions)

def called (h : Host) : Except CallError (Option Emission) → Turn
  | .ok emission => ⟨h, .ok none, emission.toList⟩
  | .error e => ⟨h, .error (.call e), []⟩

def turn (h : Host) : Step → Turn
  | .configure service threshold asJson =>
    match h.setup.configure service threshold asJson with
    | .ok p => ⟨{ h with setup := p }, .ok (some p), []⟩
    | .error e => ⟨h, .error (.threshold e), []⟩
  | .state => ⟨h, .ok (some h.setup), []⟩
  | .logger name handle => ⟨{ h with handles := h.handles.set handle (.ofName name) }, .ok none, []⟩
  | .log (.named name) method event fields clock =>
    h.called ((Logger.ofName name).call h.setup method event fields clock).2
  | .log (.handle handle) method event fields clock =>
    match h.handles.get? handle with
    | none => ⟨h, .error (.spec (.unknownName handle)), []⟩
    | some l =>
      let (l, outcome) := l.call h.setup method event fields clock
      { h with handles := h.handles.set handle l }.called outcome
  | .normalize spec clock =>
    match (spec.build (fun _ => none) (fun _ => none)).runFrom h.nextTag with
    | (.error e, tag) => ⟨{ h with nextTag := tag }, .error (.spec e), []⟩
    | (.ok rule, tag) =>
      let n := rule.normalize Policy.acceptAll h.cache
      let (h, emissions) := { h with cache := n.cache, nextTag := tag }.noteAll clock n.events
      ⟨h, .ok none, emissions⟩
  | .clear clock =>
    let (cache, events) := h.cache.clear
    let (h, emissions) := { h with cache }.noteAll clock events
    ⟨h, .ok none, emissions⟩

/-- The steps of a host, each with what comes of it. -/
def run (h : Host) : List Step → List Turn
  | [] => []
  | s :: rest =>
    let t := h.turn s
    t :: t.host.run rest

def after (h : Host) (steps : List Step) : Host := steps.foldl (fun h s => (h.turn s).host) h

end Host

end Rulebook.Log

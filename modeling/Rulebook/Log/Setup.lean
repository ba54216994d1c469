import Rulebook.Log.Reserved
import Rulebook.Problem

/-!
# How a process logs

A process starts without a configuration. `Setup.configure` sets the renderer every time, but the threshold only the
first time, and changes nothing if the name of the threshold is unknown. A logger keeps the renderer that was in force
at its first use under a configuration.
-/

namespace Rulebook.Log

inductive Renderer where
  | json
  | console
deriving DecidableEq

def Renderer.name : Renderer → String
  | .json => "json"
  | .console => "console"

/-- How a process logs: the renderer in force, if it was configured, and the level below which events are dropped. -/
structure Setup where
  renderer : Option Renderer
  threshold : Nat
deriving DecidableEq

/-- A service asked for a threshold that there is not. -/
structure UnknownThreshold where
  service : String
  name : String
deriving DecidableEq

/-- The problem that is raised about an unknown threshold. -/
def UnknownThreshold.problem (e : UnknownThreshold) : Problem :=
  .ofClass .configuration ("Unknown log level: " ++ e.name) [("service", .str e.service), ("log_level", .str e.name)]

namespace Setup

/-- The setup of a process that was never configured. -/
def initial : Setup := ⟨none, 30⟩

def isConfigured (s : Setup) : Bool := s.renderer.isSome

/-- Configure the logging of a service. Only the first configuration of a process sets the threshold. -/
def configure (s : Setup) (service threshold : String) (asJson : Bool) : Except UnknownThreshold Setup :=
  match threshold? threshold with
  | some level =>
    .ok ⟨some (if asJson then .json else .console), if s.isConfigured then s.threshold else level⟩
  | none => .error ⟨service, threshold⟩

end Setup

structure Emission where
  renderer : Renderer
  record : Record

/-- The line that is written, unless it is made for a console. -/
def Emission.line? (e : Emission) : Option String :=
  match e.renderer with
  | .json => some e.record.line
  | .console => none

/-- A named logger, with the renderer it keeps if it was used. -/
structure Logger where
  name : String
  kept : Option Renderer
deriving DecidableEq

namespace Logger

/-- A logger that was never used. The logger without a name is the root of all. -/
def ofName (name : String) : Logger := ⟨if name.isEmpty then "root" else name, none⟩

def use (l : Logger) (s : Setup) : Logger := { l with kept := l.kept.or s.renderer }

/-- Log an event, which is dropped if its level is below the threshold. Where nothing was ever configured, the bare
event goes to the console. -/
def log (l : Logger) (s : Setup) (severity : Severity) (event : Json) (fields : List (String × Json))
    (clock : Json) : Logger × Option Emission :=
  let used := l.use s
  match used.kept with
  | none => (used, some ⟨.console, Record.setEvent (Fields.ofPairs fields) event⟩)
  | some renderer =>
    if severity.level < s.threshold then (used, none)
    else (used, some ⟨renderer, .ofEvent fields event l.name severity clock⟩)

/-- Log an event that a caller tells with fields of any name. The logger is used even if the call fails. -/
def call (l : Logger) (s : Setup) (method : Method) (event : Json) (fields : List (String × Json))
    (clock : Json) : Logger × Except CallError (Option Emission) :=
  match CallError.ofNames? method (fields.map Prod.fst) with
  | some error => (l.use s, .error error)
  | none =>
    match l.log s method.severity event fields clock, CallError.ofRecord? (Fields.ofPairs fields) with
    | (used, some _), some error => (used, .error error)
    | (used, emission), _ => (used, .ok emission)

end Logger

end Rulebook.Log

import Rulebook.Log.Setup
import Rulebook.Settings.Basic

/-!
# A process with settings

A host makes settings from its surroundings, keeps the settings of the process once they could be made, and configures
logging by them. Settings get a number when they are first handed out; settings that are kept but by which logging
could not be configured have none yet.
-/

namespace Rulebook.Settings

/-- Settings that are kept for the process, with their number if they were handed out. -/
structure Kept where
  config : Config
  number : Option Nat
deriving DecidableEq

/-- The surroundings, settings and logging of a process. -/
structure Host where
  around : Surroundings
  kept : Option Kept
  /-- The settings handed out so far, by number. -/
  numbered : List Config
  setup : Log.Setup

inductive Step where
  | setVariable (name value : String)
  | removeVariable (name : String)
  | writeFile (lines : List String)
  | forget
  | make (arguments : Fields Json)
  | get
  /-- Configure logging by numbered settings, or by those of the process. A negative number counts from the last. -/
  | setUp (number : Option Int)

inductive StepError where
  | environment (error : VariableError)
  | invalid (faults : List Fault)
  | threshold (error : Log.UnknownThreshold)
  | unknownNumber (number : Int)
deriving DecidableEq

inductive Reply where
  | done
  | config (number : Nat) (config : Config)
  /-- The number of the settings by which logging was configured, and the state of logging. -/
  | setUp (number : Except StepError Nat) (setup : Log.Setup)

structure Turn where
  host : Host
  reply : Except StepError Reply

namespace Host

def initial : Host := ⟨⟨.empty, []⟩, none, [], .initial⟩

/-- Hand settings out under a new number. -/
def handOut (h : Host) (config : Config) : Host × Nat :=
  ({ h with numbered := h.numbered ++ [config] }, h.numbered.length)

/-- The settings of the process, made and kept if there are none. -/
def keep (h : Host) : Except (List Fault) (Host × Kept) :=
  match h.kept with
  | some k => .ok (h, k)
  | none => do
    let config ← Config.ofSources .empty h.around
    return ({ h with kept := some ⟨config, none⟩ }, ⟨config, none⟩)

/-- Hand out the settings that are kept, under the number they have or a new one. -/
def handOutKept (h : Host) (k : Kept) : Host × Nat :=
  match k.number with
  | some n => (h, n)
  | none =>
    let (h, n) := h.handOut k.config
    ({ h with kept := some { k with number := some n } }, n)

def configure (h : Host) (config : Config) : Except Log.UnknownThreshold Host := do
  return { h with setup := ← h.setup.configure config.serviceName config.logLevel config.jsonLogs }

/-- The number that is meant by one that counts from the last if it is negative. -/
def place? (h : Host) (number : Int) : Option Nat :=
  (if number < 0 then number + h.numbered.length else number).toNat?

/-- Configure logging by settings that have a number. -/
def setUpNumbered (h : Host) (number : Int) : Host × Except StepError Nat :=
  match (h.place? number).bind fun n => h.numbered[n]?.map (n, ·) with
  | none => (h, .error (.unknownNumber number))
  | some (n, config) =>
    match h.configure config with
    | .ok h => (h, .ok n)
    | .error e => (h, .error (.threshold e))

/-- Configure logging by the settings of the process, which are kept even if logging cannot be configured by them. -/
def setUpKept (h : Host) : Host × Except StepError Nat :=
  match h.keep with
  | .error faults => (h, .error (.invalid faults))
  | .ok (h, k) =>
    match h.configure k.config with
    | .ok h =>
      let (h, n) := h.handOutKept k
      (h, .ok n)
    | .error e => (h, .error (.threshold e))

def turn (h : Host) : Step → Turn
  | .setVariable name value =>
    match h.around.setVariable name value with
    | .ok around => ⟨{ h with around }, .ok .done⟩
    | .error e => ⟨h, .error (.environment e)⟩
  | .removeVariable name => ⟨{ h with around.environment := h.around.environment.erase name }, .ok .done⟩
  | .writeFile lines => ⟨{ h with around.lines := lines }, .ok .done⟩
  | .forget => ⟨{ h with kept := none }, .ok .done⟩
  | .make arguments =>
    match Config.ofSources arguments h.around with
    | .error faults => ⟨h, .error (.invalid faults)⟩
    | .ok config =>
      let (h, n) := h.handOut config
      ⟨h, .ok (.config n config)⟩
  | .get =>
    match h.keep with
    | .error faults => ⟨h, .error (.invalid faults)⟩
    | .ok (h, k) =>
      let (h, n) := h.handOutKept k
      ⟨h, .ok (.config n k.config)⟩
  | .setUp number =>
    let (h, outcome) := match number with
      | some n => h.setUpNumbered n
      | none => h.setUpKept
    ⟨h, .ok (.setUp outcome h.setup)⟩

/-- The steps of a host, each with what comes of it. -/
def run (h : Host) : List Step → List Turn
  | [] => []
  | s :: rest =>
    let t := h.turn s
    t :: t.host.run rest

def after (h : Host) (steps : List Step) : Host := steps.foldl (fun h s => (h.turn s).host) h

end Host

end Rulebook.Settings

import Rulebook.Rule.Basic

/-!
# Specifications

What a caller writes down to have drivers, points in time and rules made. Making a driver takes the next free tag, and
tags that were taken stay taken if something else of the same specification is wrong.
-/

namespace Rulebook

inductive SpecError where
  | identifier (error : Uuid.ParseError)
  | driverType (error : DriverType.Unknown)
  | time (error : Time.PartError)
  | unknownName (name : String)
deriving DecidableEq

def SpecError.message : SpecError → String
  | .identifier e => e.message
  | .driverType e => e.message
  | .time e => e.message
  | .unknownName name => Text.quote name

/-- Making something that may take tags, where the state is the next free tag. -/
abbrev Build (α : Type) := ExceptT SpecError (StateM Nat) α

namespace Build

variable {α ε : Type}

/-- What is made, and the next free tag after it. -/
def runFrom (b : Build α) (tag : Nat) : Except SpecError α × Nat := (b.run).run tag

def lift (wrap : ε → SpecError) : Except ε α → Build α
  | .ok x => pure x
  | .error e => throw (wrap e)

def fresh (d : Driver) : Build Instance := do
  let tag ← get
  set (tag + 1)
  return ⟨d, tag⟩

end Build

inductive DriverSpec where
  | plain (value : String)
  | typed (value type : String)
  /-- The wildcard of a type given by its name, or of strings. -/
  | wildcard (type : Option String)
  | named (name : String)
deriving DecidableEq

namespace DriverSpec

/-- The instance that is specified, where some instances have names. -/
def build (instances : String → Option Instance) : DriverSpec → Build Instance
  | .plain value => .fresh ⟨value, .string⟩
  | .typed value type => do .fresh ⟨value, ← .lift .driverType (DriverType.ofName type)⟩
  | .wildcard none => .fresh (.wildcard .string)
  | .wildcard (some type) => do .fresh (.wildcard (← .lift .driverType (DriverType.ofName type)))
  | .named name =>
    match instances name with
    | some i => pure i
    | none => throw (.unknownName name)

/-- The instances that are specified, each so many times. -/
def buildAll (instances : String → Option Instance) (specs : List (DriverSpec × Nat)) : Build (List Instance) :=
  (specs.flatMap fun p => List.replicate p.2 p.1).mapM (build instances)

end DriverSpec

inductive TimeSpec where
  | epoch
  | latest
  | parts (parts : Time.Parts)
deriving DecidableEq

def TimeSpec.build : TimeSpec → Except Time.PartError Time.DateTime
  | .epoch => .ok Time.epoch
  | .latest => .ok Time.latest
  | .parts p => Time.DateTime.ofParts p

/-- The point in time that is specified, if one is. -/
def TimeSpec.buildOptional : Option TimeSpec → Except Time.PartError (Option Time.DateTime)
  | some t => some <$> t.build
  | none => .ok none

def Uuid.parseOptional : Option String → Except Uuid.ParseError (Option Uuid)
  | some text => some <$> Uuid.parse text
  | none => .ok none

/-- Instances and outputs from which rules are made, owned by the caller. -/
structure Source where
  instances : List Instance
  outputs : Fields (Option String)
deriving DecidableEq

/-- Where a specified rule takes its drivers and outputs from. -/
inductive ContentSpec where
  | listed (drivers : List (DriverSpec × Nat)) (outputs : List (String × Option String))
  | source (name : String)
deriving DecidableEq

/-- Drivers and outputs that are specified, where some instances and sources have names. -/
def ContentSpec.build (instances : String → Option Instance) (sources : String → Option Source) :
    ContentSpec → Build Source
  | .listed drivers outputs => do return ⟨← DriverSpec.buildAll instances drivers, .ofPairs outputs⟩
  | .source name =>
    match sources name with
    | some s => pure s
    | none => throw (.unknownName name)

structure RuleSpec where
  identifier : Option String
  code : Option String
  content : ContentSpec
  start : Option TimeSpec
  finish : Option TimeSpec
deriving DecidableEq

/-- The rule that is specified. Its parts are made in the order in which they are listed. -/
def RuleSpec.build (instances : String → Option Instance) (sources : String → Option Source) (spec : RuleSpec) :
    Build Rule := do
  let identifier ← .lift .identifier (Uuid.parseOptional spec.identifier)
  let code ← .lift .identifier (Uuid.parseOptional spec.code)
  let content ← spec.content.build instances sources
  let start ← .lift .time (TimeSpec.buildOptional spec.start)
  let finish ← .lift .time (TimeSpec.buildOptional spec.finish)
  return ⟨identifier, code, content.instances, content.outputs, .ofBounds start finish⟩

end Rulebook

import Rulebook.Fields
import Rulebook.Json.Printer
import Rulebook.Validation

/-!
# Problems and how they are reported

A `Problem` is what a component raises: a code, a message and details, none of which is checked when it is made. A
`Response` is what is sent about it: a text, a text and an object. `Problem.response` makes the one from the other and
is where the checks happen.
-/

namespace Rulebook

structure Response where
  code : String
  message : String
  details : List (String × Json)

namespace Response

/-- The response with three given fields, or the faults of all that are wrong. -/
def ofChecks (code message : Except Fault String) (details : Except Fault (List (String × Json))) :
    Except (List Fault) Response :=
  match code, message, details with
  | .ok c, .ok m, .ok d => .ok ⟨c, m, d⟩
  | c, m, d => .error (Fault.ofCheck c ++ Fault.ofCheck m ++ Fault.ofCheck d)

/-- The response made from named values. Details that are not given are empty, and other names play no part. -/
def ofFields (fields : Fields Json) : Except (List Fault) Response :=
  ofChecks (Fault.checkText "code" (fields.get? "code")) (Fault.checkText "message" (fields.get? "message"))
    (Fault.checkObject "details" ((fields.get? "details").getD (.obj [])))

end Response

/-- The three classes of problems. The general class holds the other two. -/
inductive ProblemClass where
  | general
  | driverCache
  | configuration
deriving DecidableEq

namespace ProblemClass

def all : List ProblemClass := [.general, .driverCache, .configuration]

def name : ProblemClass → String
  | .general => "DecisionTreeException"
  | .driverCache => "DriverCacheError"
  | .configuration => "ConfigurationError"

def ofName? (name : String) : Option ProblemClass := all.find? (·.name == name)

/-- A class and the classes that hold it. -/
def ancestry : ProblemClass → List ProblemClass
  | .general => [.general]
  | c => [c, .general]

/-- The code of every problem of a class, if the class has one. -/
def code? : ProblemClass → Option String
  | .general => none
  | .driverCache => some "DRIVER_CACHE_ERROR"
  | .configuration => some "CONFIGURATION_ERROR"

/-- The message of a problem that is made without one, if the class allows that. -/
def message? : ProblemClass → Option String
  | .general => none
  | .driverCache => some "Driver cache error"
  | .configuration => some "Invalid configuration"

/-- The names of what may be given to make a problem: a code only if the class has none. -/
def parameters (c : ProblemClass) : List String :=
  if c.code?.isSome then ["message", "details"] else ["code", "message", "details"]

/-- The names of what must be given to make a problem. -/
def required (c : ProblemClass) : List String :=
  (if c.code?.isSome then [] else ["code"]) ++ (if c.message?.isSome then [] else ["message"])

end ProblemClass

/-- The name under which a new problem itself is passed to what fills it in. -/
def receiverName : String := "self"

inductive ArgumentError where
  /-- A value has the name of the new problem itself. -/
  | receiver
  /-- A value has a name that is not one of the parameters. -/
  | unexpected (name : String)
  | missing (names : List String)
deriving DecidableEq

/-- What is said about named values that make no problem of class `c`. -/
def ArgumentError.message (c : ProblemClass) : ArgumentError → String
  | .receiver => c.name ++ ".__init__() got multiple values for argument '" ++ receiverName ++ "'"
  | .unexpected name => c.name ++ ".__init__() got an unexpected keyword argument '" ++ name ++ "'"
  | .missing names =>
    let noun := if names.length = 1 then "argument" else "arguments"
    let list := " and ".intercalate (names.map fun n => "'" ++ n ++ "'")
    c.name ++ ".__init__() missing " ++ String.ofList (Text.decimal names.length) ++ " required positional " ++
      noun ++ ": " ++ list

/-- What a component raises. Nothing is known about the values it holds. -/
structure Problem where
  kind : ProblemClass
  code : Json
  message : Json
  details : Json

namespace Problem

/-- A problem with details; details that stand for nothing become an empty object. -/
def make (kind : ProblemClass) (code message details : Json) : Problem :=
  ⟨kind, code, message, if details.isFalsy then .obj [] else details⟩

def ofClass (kind : ProblemClass) (message : String) (details : List (String × Json)) : Problem :=
  make kind (.ofText? kind.code?) (.str message) (.obj details)

/-- The problem made from named values. A name that is no parameter is told before a value that is missing. -/
def ofFields (kind : ProblemClass) (fields : Fields Json) : Except ArgumentError Problem :=
  match fields.names.find? (!kind.parameters.contains ·) with
  | some name => .error (if name = receiverName then .receiver else .unexpected name)
  | none =>
    match kind.required.filter (!fields.names.contains ·) with
    | [] =>
      let code := (fields.get? "code").getD (.ofText? kind.code?)
      let message := (fields.get? "message").getD (.ofText? kind.message?)
      .ok (make kind code message ((fields.get? "details").getD .null))
    | names => .error (.missing names)

def text (p : Problem) : String := p.message.display

/-- What is sent about a problem, or the faults of the values it holds. -/
def response (p : Problem) : Except (List Fault) Response :=
  Response.ofChecks (Fault.checkText "code" (some p.code)) (Fault.checkText "message" (some p.message))
    (Fault.checkObject "details" (some p.details))

end Problem

end Rulebook

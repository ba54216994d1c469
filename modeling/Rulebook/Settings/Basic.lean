import Rulebook.Settings.File
import Rulebook.Validation
import Rulebook.Word

/-!
# Settings

Four settings, each of which is taken from the first of these that gives it: arguments, the environment, the lines of a
settings file, its default. In the environment and in the file a setting is a variable, and its value is always text;
arguments may be of any kind and are checked. Arguments and variables may be named in any case. Of several spellings of
one name the first argument wins, and the last variable.
-/

namespace Rulebook

structure Config where
  env : String
  serviceName : String
  logLevel : String
  jsonLogs : Bool
deriving DecidableEq

namespace Settings

/-- The settings by name, in the order in which they are listed. -/
inductive Setting where
  | env
  | serviceName
  | logLevel
  | jsonLogs
deriving DecidableEq

namespace Setting

def name : Setting → String
  | .env => "env"
  | .serviceName => "service_name"
  | .logLevel => "log_level"
  | .jsonLogs => "json_logs"

/-- The name of the variable of a setting, in lower case. -/
def variableName (s : Setting) : String := "decisiontree_" ++ s.name

/-- The value of a setting that is given nowhere. -/
def default : Setting → Json
  | .env => .str "local"
  | .serviceName => .str "decisiontree"
  | .logLevel => .str "info"
  | .jsonLogs => .bool true

end Setting

/-- A text with its ASCII letters in lower case. -/
def lower (s : String) : String := String.ofList (s.toList.map Char.toLower)

/-- The value of the last of the given variables that is the variable of a setting. -/
def valueIn {α : Type} (given : Fields α) (s : Setting) : Option α :=
  (given.entries.reverse.find? fun p => lower p.1 == s.variableName).map Prod.snd

/-- The value of the first of the given arguments that has the name of a setting. -/
def valueAmong (arguments : Fields Json) (s : Setting) : Option Json :=
  (arguments.entries.find? fun p => lower p.1 == s.name).map Prod.snd

/-- Where settings are looked up behind the arguments. -/
structure Surroundings where
  environment : Fields String
  lines : List String
deriving DecidableEq

def Surroundings.fileVariables (around : Surroundings) : Fields (Option String) :=
  File.values around.environment around.lines

/-- Why a variable of the environment cannot be set. -/
inductive VariableError where
  | nullCharacter
  | equalsInName
  | noName
deriving DecidableEq

/-- What is said about a variable that cannot be set. -/
def VariableError.message : VariableError → String
  | .nullCharacter => "embedded null byte"
  | .equalsInName => "illegal environment variable name"
  | .noName => "[Errno 22] Invalid argument"

def Surroundings.setVariable (around : Surroundings) (name value : String) : Except VariableError Surroundings :=
  if name.toList.contains '\x00' || value.toList.contains '\x00' then .error .nullCharacter
  else if name.toList.contains '=' then .error .equalsInName
  else if name.isEmpty then .error .noName
  else .ok { around with environment := around.environment.set name value }

def given (arguments : Fields Json) (around : Surroundings) (s : Setting) : Json :=
  let inEnvironment := valueIn around.environment s
  let inFile := (valueIn around.fileVariables s).join
  (valueAmong arguments s).getD (((inEnvironment.or inFile).map Json.str).getD s.default)

/-- The truth value that a text writes, in any case of its ASCII letters. -/
def truth? (s : String) : Option Bool :=
  let word := lower s
  if ["0", "off", "f", "false", "n", "no"].contains word then some false
  else if ["1", "on", "t", "true", "y", "yes"].contains word then some true
  else none

/-- The whole number that a value is, if a word of 64 bits holds it. -/
def word? : Json → Option Int
  | .int n => if fitsWord 64 n then some n else none
  | .real x => (x.whole? 19).filter (fitsWord 64)
  | _ => none

/-- The truth value given for a field. Numbers that no word holds, such as fractions, are of the wrong kind, and of the
others only zero and one stand for truth values. -/
def checkTruth (field : String) : Json → Except Fault Bool
  | .bool b => .ok b
  | .str s =>
    match truth? s with
    | some b => .ok b
    | none => .error ⟨field, .unknownBoolean⟩
  | value =>
    match word? value with
    | some 0 => .ok false
    | some 1 => .ok true
    | some _ => .error ⟨field, .unknownBoolean⟩
    | none => .error ⟨field, .notBoolean⟩

end Settings

open Settings in
/-- The settings that are given, or the faults of all that are wrong. -/
def Config.ofSources (arguments : Fields Json) (around : Surroundings) : Except (List Fault) Config :=
  let text (s : Setting) := Fault.checkText s.name (some (given arguments around s))
  match text .env, text .serviceName, text .logLevel,
      checkTruth Setting.jsonLogs.name (given arguments around .jsonLogs) with
  | .ok env, .ok service, .ok level, .ok json => .ok ⟨env, service, level, json⟩
  | env, service, level, json =>
    .error (Fault.ofCheck env ++ Fault.ofCheck service ++ Fault.ofCheck level ++ Fault.ofCheck json)

end Rulebook

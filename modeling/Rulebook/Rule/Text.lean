import Rulebook.Json.Printer
import Rulebook.Rule.Basic
import Rulebook.Time.Iso

/-!
# The written form of rules

All parts of a rule on one line. Values of drivers, names of outputs and their values are quoted, so that nothing in
them can be taken for a part of the form itself.
-/

namespace Rulebook

def outputChars (output : String × Option String) : List Char :=
  Text.quoted output.1.toList ++ ':' :: ' ' ::
    output.2.elim ['N', 'o', 'n', 'e'] fun value => Text.quoted value.toList

namespace Rule

/-- The parts of a rule in writing, each behind its name. -/
def parts (r : Rule) : List (String × List Char) := [
  ("rule_identifier=", (Uuid.textOf r.identifier).toList),
  ("rule_code=", (Uuid.textOf r.code).toList),
  ("drivers=", '[' :: Text.listed (r.drivers.map fun d => Text.quoted d.value.toList) ++ [']']),
  ("outputs=", '\x7b' :: Text.listed (r.outputs.entries.map outputChars) ++ ['\x7d']),
  ("start=", r.window.start.chars),
  ("end=", r.window.finish.chars)]

def text (r : Rule) : String :=
  String.ofList
    ("DecisionTreeRule(".toList ++ Text.listed (r.parts.map fun p => p.1.toList ++ p.2) ++ [')'])

end Rule

end Rulebook

import Rulebook.Distinct
import Rulebook.Rule.Normalize

/-!
# Sets of rules

A list of rules is made into a rule set by accepting in turn each rule that duplicates none of those accepted before
it, and normalising the accepted rules through one fresh cache. At a time, the rule of a set that counts is the first
of greatest weight among those that are active. Rules are known by their places in the list.
-/

namespace Rulebook

/-- A rule with its place in a list of rules. -/
structure Entry where
  index : Nat
  rule : Rule
deriving DecidableEq

namespace Entry

def ofRules (rules : List Rule) : List Entry := rules.zipIdx.map fun p => ⟨p.2, p.1⟩

/-- The entries whose rules duplicate no rule accepted before them. -/
def accepted (entries : List Entry) : List Entry :=
  entries.foldl (fun kept e => if kept.any (fun k => e.rule.isDuplicateOf k.rule) then kept else kept ++ [e]) []

/-- Normalise rules in turn through a cache that refuses nothing. -/
def normalizeAll : List Entry → Cache → List Entry × Cache
  | [], c => ([], c)
  | e :: rest, c =>
    let n := e.rule.normalize Policy.acceptAll c
    let (done, c) := normalizeAll rest n.cache
    (⟨e.index, n.rule⟩ :: done, c)

def active (time : Option Time.DateTime) : List Entry → Except Time.OrderError (List Entry)
  | [] => .ok []
  | e :: rest => do
    let isActive ← e.rule.isActiveAt time
    let others ← active time rest
    return if isActive then e :: others else others

/-- The first entry whose rule has the greatest weight. -/
def heaviest? : List Entry → Option Entry
  | [] => none
  | e :: rest =>
    match heaviest? rest with
    | some best => if e.rule.weight < best.rule.weight then some best else some e
    | none => some e

/-- The entry that counts at a time. -/
def best? (time : Option Time.DateTime) (entries : List Entry) : Except Time.OrderError (Option Entry) := do
  return heaviest? (← active time entries)

end Entry

/-- Accepted rules, normalised, with the cache that holds their drivers. -/
structure RuleSet where
  entries : List Entry
  cache : Cache
deriving DecidableEq

namespace RuleSet

def ofRules (rules : List Rule) : RuleSet :=
  let (entries, cache) := Entry.normalizeAll (Entry.accepted (Entry.ofRules rules)) .empty
  ⟨entries, cache⟩

/-- The rule that counts at a time. -/
def best? (s : RuleSet) (time : Option Time.DateTime) : Except Time.OrderError (Option Entry) :=
  Entry.best? time s.entries

end RuleSet

end Rulebook

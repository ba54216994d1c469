import Rulebook.Cache.Call
import Rulebook.Rule.Normalize

/-!
# Normalising rules side by side

A task normalises a rule by single operations: it looks up the driver of a slot, puts the slot's instance in if nothing
was found, looks the driver up again, and replaces the slot. Each operation on the cache is one step, so that tasks may
take turns at a cache in any order, and other clients may call it in between.
-/

namespace Rulebook

open Log (Event)

/-- What a task does next at the slot where it is. -/
inductive Stage where
  | find
  | put
  | findAgain
  | assign (i : Instance)
  | ended (error : Option RefusedDriver)
deriving DecidableEq

namespace Stage

def hasEnded : Stage → Bool
  | .ended _ => true
  | _ => false

theorem hasEnded_iff {s : Stage} : s.hasEnded = true ↔ ∃ error, s = .ended error := by
  cases s <;> simp [hasEnded]

end Stage

/-- A rule on its way to be normalised: the place of the slot that is next, and how many instances were put in. -/
structure Task where
  rule : Rule
  place : Nat
  inserted : Nat
  stage : Stage
deriving DecidableEq

namespace Task

structure Worked where
  task : Task
  cache : Cache
  events : List Event
deriving DecidableEq

def ofRule (r : Rule) : Task := ⟨r, 0, 0, .find⟩

/-- The next operation of a task. Behind the last slot it notes that all slots were replaced; a task that has ended does
nothing more. -/
def work (refuses : Policy) (t : Task) (c : Cache) : Worked :=
  match t.stage, t.rule.slots[t.place]? with
  | .ended _, _ => ⟨t, c, []⟩
  | _, none => ⟨{ t with stage := .ended none }, c, [.replaced t.rule.identifier t.rule.slots.length t.inserted]⟩
  | .find, some s =>
    match c.get s.driver with
    | (some i, c) => ⟨{ t with stage := .assign i }, c, []⟩
    | (none, c) => ⟨{ t with stage := .put }, c, []⟩
  | .put, some s =>
    let (c, events) := c.put refuses s
    ⟨{ t with stage := .findAgain, inserted := t.inserted + 1 }, c, events⟩
  | .findAgain, some s =>
    match c.get s.driver with
    | (some i, c) => ⟨{ t with stage := .assign i }, c, []⟩
    | (none, c) => ⟨{ t with stage := .ended (some ⟨t.rule.identifier, s.driver⟩) }, c, []⟩
  | .assign i, some _ =>
    ⟨{ t with rule := { t.rule with slots := t.rule.slots.set t.place i }, place := t.place + 1, stage := .find }, c, []⟩

/-- So many operations of a task with nothing in between. -/
def workAlone (refuses : Policy) : Nat → Task → Cache → Worked
  | 0, t, c => ⟨t, c, []⟩
  | n + 1, t, c =>
    let first := t.work refuses c
    let rest := workAlone refuses n first.task first.cache
    { rest with events := first.events ++ rest.events }

end Task

structure Crew where
  cache : Cache
  tasks : List Task
  events : List Event

namespace Crew

/-- Who is next at the cache: a task, with its next operation, or another client. -/
inductive Move where
  | task (place : Nat)
  | client (call : Cache.Call)
deriving DecidableEq

/-- A task for each rule, before the first operation. -/
def ofRules (rules : List Rule) (c : Cache) : Crew := ⟨c, rules.map Task.ofRule, []⟩

def move (refuses : Policy) (w : Crew) : Move → Crew
  | .task place =>
    match w.tasks[place]? with
    | some t =>
      let d := t.work refuses w.cache
      ⟨d.cache, w.tasks.set place d.task, w.events ++ d.events⟩
    | none => w
  | .client call =>
    let p := w.cache.perform refuses call
    ⟨p.cache, w.tasks, w.events ++ p.events⟩

def after (refuses : Policy) (w : Crew) (moves : List Move) : Crew := moves.foldl (move refuses) w

end Crew

end Rulebook

import Mathlib.Data.List.DropRight
import Rulebook.Proofs.Pool
import Rulebook.Proofs.Task

/-!
# Events as a journal of the cache

What a cache notes tells what it holds. Every single operation on a cache notes the driver that it adds, or that it
clears the cache, and nothing else (`Cache.tells_perform`, `Task.Works.tells`). So the events of a whole course, taken
one after the other, lead from the drivers held at its beginning to those held in the end (`Pool.tells_after`), and from
an empty cache they lead to the drivers noted since the last clearing (`Log.journal_eq_foldl`). The event that ends the
normalising of a rule counts the drivers noted by then (`Rule.replaced_normalize`).
-/

namespace Rulebook

open Log (Event)

/-! ### Reading events -/

namespace Log

namespace Event

/-- The driver that is noted as cached. -/
def cached? : Event → Option Driver
  | .cached d => some d
  | _ => none

def isReplaced : Event → Bool
  | .replaced .. => true
  | _ => false

/-- The drivers held after an event, from those held before. -/
def lead (held : List Driver) : Event → List Driver
  | .cached d => held ++ [d]
  | .cleared => []
  | .replaced .. => held

end Event

/-- The drivers noted as cached since the last clearing, oldest first. -/
def journal (log : List Event) : List Driver := (log.rtakeWhile (· ≠ .cleared)).filterMap Event.cached?

theorem journal_concat (log : List Event) (e : Event) : journal (log ++ [e]) = Event.lead (journal log) e := by
  rw [journal, List.rtakeWhile_concat]
  cases e with
  | cleared => rfl
  | cached d =>
    rw [if_pos (by simp), List.filterMap_append]
    rfl
  | replaced rule drivers inserted =>
    rw [if_pos (by simp), List.filterMap_append]
    exact List.append_nil _

theorem journal_eq_foldl (log : List Event) : journal log = log.foldl Event.lead [] := by
  induction log using List.reverseRecOn with
  | nil => rfl
  | append_singleton log e ih => rw [journal_concat, ih, List.foldl_concat]

end Log

namespace Cache

variable {c c' c'' : Cache} {events more : List Event}

def drivers (c : Cache) : List Driver := c.entries.map Instance.driver

/-- Events lead from the drivers that a cache holds to those that another one holds. -/
def Tells (c : Cache) (events : List Event) (c' : Cache) : Prop := c'.drivers = events.foldl Event.lead c.drivers

theorem Tells.trans (first : c.Tells events c') (rest : c'.Tells more c'') : c.Tells (events ++ more) c'' := by
  rw [Tells, List.foldl_append, ← first]
  exact rest

theorem tells_of_entries_eq (same : c'.entries = c.entries) : c.Tells [] c' :=
  congrArg (List.map Instance.driver) same

theorem tells_put (refuses : Policy) (c : Cache) (i : Instance) : c.Tells (c.put refuses i).2 (c.put refuses i).1 := by
  unfold put
  split
  · exact tells_of_entries_eq rfl
  · rename_i taken
    rw [Bool.or_eq_true, not_or, Bool.not_eq_true (c.contains i.driver)] at taken
    show (c.add i).entries.map _ = _
    rw [entries_add, taken.2, if_neg Bool.false_ne_true, List.map_append]
    rfl

theorem tells_perform (refuses : Policy) (c : Cache) (call : Call) :
    c.Tells (c.perform refuses call).events (c.perform refuses call).cache := by
  cases call with
  | get d => exact tells_of_entries_eq (entries_get c d)
  | put i => exact tells_put refuses c i
  | contains d => exact tells_of_entries_eq rfl
  | clear => rfl
  | size => exact tells_of_entries_eq rfl
  | counts => exact tells_of_entries_eq rfl

theorem filter_isReplaced_perform (refuses : Policy) (c : Cache) (call : Call) :
    (c.perform refuses call).events.filter Event.isReplaced = [] := by
  cases call with
  | put i =>
    show (c.put refuses i).2.filter _ = []
    unfold put
    split <;> rfl
  | _ => rfl

end Cache

/-! ### Tasks and rules -/

namespace Task

variable {refuses : Policy} {t : Task} {c : Cache} {d : Worked}

theorem Works.tells (works : Works refuses t c d) : c.Tells d.events d.cache := by
  cases works with
  | put => exact Cache.tells_put refuses c _
  | finished => rfl
  | _ => exact Cache.tells_of_entries_eq rfl

/-- At every moment while a task is at work alone, what it noted by then leads to what the cache holds. -/
theorem tells_workAlone (refuses : Policy) (n : Nat) (t : Task) (c : Cache) :
    c.Tells (workAlone refuses n t c).events (workAlone refuses n t c).cache := by
  induction n generalizing t c with
  | zero => rfl
  | succ n ih => exact (work_cases refuses t c).tells.trans (ih _ _)

end Task

namespace Rule

variable (refuses : Policy) (r : Rule) (c : Cache)

theorem tells_normalize : c.Tells (r.normalize refuses c).events (r.normalize refuses c).cache := by
  obtain ⟨-, cache, events, -⟩ := Task.workAlone_ofRule refuses r c
  rw [← cache, ← events]
  exact Task.tells_workAlone refuses _ _ c

/-- That the drivers of a rule were replaced is noted once and only if it succeeded, with the number of its slots and
as many insertions as drivers were noted as cached meanwhile. -/
theorem replaced_normalize :
    let n := r.normalize refuses c
    n.events.filter Event.isReplaced =
      match n.error with
      | none => [.replaced r.identifier r.slots.length (n.events.filterMap Event.cached?).length]
      | some _ => [] := by
  have silent : ∀ is : List Instance, (is.map fun i => Event.cached i.driver).filter Event.isReplaced = [] := by
    simp [Event.isReplaced]
  have heard : ∀ is : List Instance, (is.map fun i => Event.cached i.driver).filterMap Event.cached? =
      is.map Instance.driver := by
    simp [Event.cached?, Function.comp_def]
  rcases Pass.run_cases refuses r.slots c with ⟨_, all⟩ | ⟨k, s, _, _, stops⟩
  · rw [normalize_of_complete all]
    dsimp only [Pass.complete]
    rw [List.filter_append, silent, List.filterMap_append, heard, List.length_append, List.length_map]
    rfl
  · -- what was counted as inserted is off by the refused driver here, but it is not told
    rw [normalize_of_stopped stops]
    exact silent _

end Rule

/-! ### Courses -/

namespace Pool

variable {p : Pool} {s : Step} {t : Turn}

theorem Turns.tells (turns : Turns p s t) : p.cache.Tells t.events t.pool.cache := by
  cases turns with
  | called call => exact Cache.tells_perform s.refuses p.cache call
  | normalized place r => exact Rule.tells_normalize s.refuses r p.cache
  | _ => rfl

theorem tells_after (p : Pool) (steps : List Step) : p.cache.Tells (p.log steps) (p.after steps).cache := by
  induction steps generalizing p with
  | nil => rfl
  | cons s rest ih => exact (turn_cases p s).tells.trans (ih _)

theorem Turns.replaced (turns : Turns p s t) :
    t.events.filter Event.isReplaced =
      match s.act, t.error with
      | .normalize place, none => p.rules[place]?.toList.map fun r =>
        .replaced r.identifier r.slots.length (t.events.filterMap Event.cached?).length
      | _, _ => [] := by
  cases turns with
  | idle place nothing act =>
    rcases act with act | ⟨other, act⟩
    · rw [act]
      simp [nothing, Pool.idle]
    · rw [act]
      rfl
  | called call act =>
    rw [act]
    exact Cache.filter_isReplaced_perform s.refuses p.cache call
  | normalized place r here act =>
    rw [Rule.replaced_normalize, act]
    cases (r.normalize s.refuses p.cache).error with
    | none => simp [here]
    | some e => rfl
  | elsewhere place r other here act => rw [act]; rfl
  | joined r act => rw [act]; rfl

/-- In the course of a cache that was new, with any rules that are normalised through it, what was noted is a journal of
the cache: at every moment, also in the midst of normalising a rule, the cache holds the drivers that were noted as
cached since it was last cleared, in this order and none of them twice. That the drivers of a rule were replaced is
noted once by each step that normalises a rule without fail, with the number of its slots and the number of drivers that
the same step noted as cached; no other step notes it. -/
theorem journal_after (rules : List Rule) (steps : List Step) :
    let p := (Pool.mk .empty rules).after steps
    let log := (Pool.mk .empty rules).log steps
    p.cache.drivers = Log.journal log ∧ (Log.journal log).Nodup ∧
      (∀ (r : Rule) (refuses : Policy) (n : Nat), let d := Task.workAlone refuses n (.ofRule r) p.cache
        d.cache.drivers = Log.journal (log ++ d.events) ∧ (Log.journal (log ++ d.events)).Nodup) ∧
      ∀ s, let t := p.turn s
        t.events.filter Event.isReplaced =
          match s.act, t.error with
          | .normalize place, none => p.rules[place]?.toList.map fun r =>
            .replaced r.identifier r.slots.length (t.events.filterMap Event.cached?).length
          | _, _ => [] := by
  intro p log
  have told : Cache.empty.Tells log p.cache := tells_after _ steps
  -- between steps or within one, the events since the cache was new lead to what it holds
  have read : ∀ {events : List Event} {c : Cache}, Cache.empty.Tells events c →
      c.drivers = Log.journal events ∧ (Log.journal events).Nodup := by
    intro events c told
    have same : c.drivers = Log.journal events := Eq.trans told (Log.journal_eq_foldl events).symm
    exact ⟨same, same ▸ c.drivers_nodup⟩
  refine ⟨(read told).1, (read told).2, fun r refuses n => ?_, fun s => (turn_cases p s).replaced⟩
  exact read (told.trans (Task.tells_workAlone refuses n (.ofRule r) p.cache))

/-- A rule that is stopped at its second slot leaves its first driver in the journal, and nothing is noted of the
rule. -/
example :
    let r : Rule := ⟨none, none, [⟨⟨"A", .string⟩, 1⟩, ⟨⟨"B", .string⟩, 2⟩], .empty, .ofBounds none none⟩
    let limits : Limits := ⟨.nothing, some 1⟩
    (Pool.mk .empty [r]).log [⟨.normalize 0, limits.refuses⟩] = [.cached ⟨"A", .string⟩] := by decide

end Pool

end Rulebook

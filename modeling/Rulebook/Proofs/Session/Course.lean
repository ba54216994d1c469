import Rulebook.Proofs.Journal
import Rulebook.Proofs.Session.Turns

/-!
# Sessions seen from one cache

A session, seen from one of its caches, is the course of a pool: that cache, with all rules of the session
(`World.Shows.after`). What is known of pools is thus known of sessions. So what is noted while the cache is used tells
what it holds (`World.tells_noted`), whatever is done with other caches in between.
-/

namespace Rulebook.Session.World

open Log (Event)

variable {w : World} {s : Step} {q : Nat} {limits : Limits} {p : Pool}

/-- What a step of a session is to the pool of the cache at a place. A step that uses no cache may make a rule. -/
def poolSteps (w : World) (q : Nat) (s : Step) : List Pool.Step :=
  match w.use? s with
  | none => ((w.turn s).world.rules.items.drop w.rules.items.length).map fun r => ⟨.join r, .acceptAll⟩
  | some (place, use) =>
    match w.stores.items[place]?, use with
    | some store, .call call => if place = q then [⟨.call call, store.limits.refuses⟩] else []
    | some store, .normalize rule =>
      if place = q then [⟨.normalize rule, store.limits.refuses⟩]
      else [⟨.normalizeElsewhere rule store.cache, store.limits.refuses⟩]
    | none, _ => []

/-- What a step notes if it uses the cache at a place. -/
def notes (w : World) (q : Nat) (s : Step) : List Event :=
  if (w.use? s).any (·.1 = q) then (w.turn s).events else []

def poolCourse (w : World) (q : Nat) : List Step → List Pool.Step
  | [] => []
  | s :: rest => w.poolSteps q s ++ (w.turn s).world.poolCourse q rest

/-- All that is noted in a run by the steps that use the cache at a place. -/
def noted (w : World) (q : Nat) : List Step → List Event
  | [] => []
  | s :: rest => w.notes q s ++ (w.turn s).world.noted q rest

/-- The cache at a place and the rules of a session are those of a pool. -/
structure Shows (w : World) (q : Nat) (limits : Limits) (p : Pool) : Prop where
  cache : w.stores.items[q]? = some ⟨p.cache, limits⟩
  rules : w.rules.items = p.rules

/-! ### One step -/

theorem notes_of_unused (unused : w.use? s = none) : w.notes q s = [] := by
  rw [notes, unused]
  rfl

theorem notes_of_use {place : Nat} {use : Use} (uses : w.use? s = some (place, use)) :
    w.notes q s = if place = q then (w.turn s).events else [] := by
  rw [notes, uses]
  simp only [Option.any_some, decide_eq_true_eq]

theorem Shows.call (shown : w.Shows q limits p) {place : Nat} {store : Store} {call : Cache.Call}
    (use : w.use? s = some (place, .call call)) (item : w.stores.items[place]? = some store)
    (rules : (w.turn s).world.rules = w.rules)
    (stores : (w.turn s).world.stores =
      w.stores.replace place { store with cache := (store.cache.perform store.limits.refuses call).cache })
    (events : (w.turn s).events = (store.cache.perform store.limits.refuses call).events) :
    (w.turn s).world.Shows q limits (p.after (w.poolSteps q s)) ∧ p.log (w.poolSteps q s) = w.notes q s := by
  have steps : w.poolSteps q s = if place = q then [⟨.call call, store.limits.refuses⟩] else [] := by
    simp only [poolSteps, use, item]
  rw [steps, notes_of_use use, events]
  by_cases here : place = q
  · subst here
    cases Option.some.inj (item.symm.trans shown.cache)
    rw [if_pos rfl, if_pos rfl]
    refine ⟨⟨?_, by rw [rules]; exact shown.rules⟩, List.append_nil _⟩
    rw [stores]
    exact Registry.item_replace_self shown.cache _
  · rw [if_neg here, if_neg here]
    refine ⟨⟨?_, by rw [rules]; exact shown.rules⟩, rfl⟩
    rw [stores, Registry.items_replace _ _ _ _ (Ne.symm here)]
    exact shown.cache

theorem Shows.normalizing (shown : w.Shows q limits p) {rulePlace place : Nat} {r : Rule} {store : Store}
    (use : w.use? s = some (place, .normalize rulePlace)) (rule : w.rules.items[rulePlace]? = some r)
    (item : w.stores.items[place]? = some store) (turn : w.turn s = w.normalizing rulePlace r place store) :
    (w.turn s).world.Shows q limits (p.after (w.poolSteps q s)) ∧ p.log (w.poolSteps q s) = w.notes q s := by
  have here : p.rules[rulePlace]? = some r := shown.rules ▸ rule
  have steps : w.poolSteps q s =
      if place = q then [⟨.normalize rulePlace, store.limits.refuses⟩]
      else [⟨.normalizeElsewhere rulePlace store.cache, store.limits.refuses⟩] := by
    simp only [poolSteps, use, item]
  rw [steps, notes_of_use use, turn]
  by_cases same : place = q
  · subst same
    cases Option.some.inj (item.symm.trans shown.cache)
    rw [if_pos rfl, if_pos rfl]
    have pooled := Pool.turn_normalize limits.refuses here
    refine ⟨⟨?_, ?_⟩, ?_⟩
    · show (w.stores.replace place _).items[place]? = some ⟨(p.turn _).pool.cache, limits⟩
      rw [pooled]
      exact Registry.item_replace_self shown.cache _
    · show w.rules.items.set rulePlace _ = (p.turn _).pool.rules
      rw [pooled, shown.rules]
    · show (p.turn _).events ++ [] = _
      rw [pooled, List.append_nil]
      rfl
  · -- through another cache only the rule changes, and what is noted is not of this one
    rw [if_neg same, if_neg same]
    have pooled := Pool.turn_normalizeElsewhere store.limits.refuses store.cache here
    refine ⟨⟨?_, ?_⟩, ?_⟩
    · show (w.stores.replace place _).items[q]? = some ⟨(p.turn _).pool.cache, limits⟩
      rw [pooled, Registry.items_replace _ _ _ _ (Ne.symm same)]
      exact shown.cache
    · show w.rules.items.set rulePlace _ = (p.turn _).pool.rules
      rw [pooled, shown.rules]
    · show (p.turn _).events ++ [] = _
      rw [pooled]
      rfl

theorem Shows.turn (shown : w.Shows q limits p) (s : Step) :
    (w.turn s).world.Shows q limits (p.after (w.poolSteps q s)) ∧ p.log (w.poolSteps q s) = w.notes q s := by
  cases effect w s with
  | idle unused rules stores =>
    have steps : w.poolSteps q s = [] := by simp [poolSteps, unused, rules]
    rw [steps, notes_of_unused unused]
    exact ⟨⟨by rw [stores]; exact shown.cache, by rw [rules]; exact shown.rules⟩, rfl⟩
  | madeCache name _ step rules stores =>
    have unused : w.use? s = none := by rw [step]; rfl
    have steps : w.poolSteps q s = [] := by simp [poolSteps, unused, rules]
    rw [steps, notes_of_unused unused]
    refine ⟨⟨?_, by rw [rules]; exact shown.rules⟩, rfl⟩
    rw [stores]
    exact Registry.item_add shown.cache name _
  | madeRule name spec step r rules stores =>
    have unused : w.use? s = none := by rw [step]; rfl
    have items : (w.turn s).world.rules.items = w.rules.items ++ [r] := by rw [rules]; rfl
    have steps : w.poolSteps q s = [⟨.join r, .acceptAll⟩] := by simp [poolSteps, unused, items]
    rw [steps, notes_of_unused unused]
    refine ⟨⟨by rw [stores]; exact shown.cache, ?_⟩, rfl⟩
    rw [items, shown.rules]
    rfl
  | called place store call use item rules stores events => exact shown.call use item rules stores events
  | normalized _ _ _ rulePlace r place store use named held turn =>
    exact shown.normalizing use (Registry.item_of_find? named) (Registry.item_of_find? held) turn

/-! ### Whole sessions -/

theorem Shows.after (shown : w.Shows q limits p) (steps : List Step) :
    (w.after steps).Shows q limits (p.after (w.poolCourse q steps)) ∧
      p.log (w.poolCourse q steps) = w.noted q steps := by
  induction steps generalizing w p with
  | nil => exact ⟨shown, rfl⟩
  | cons s rest ih =>
    obtain ⟨now, noted⟩ := shown.turn s
    obtain ⟨later, noted'⟩ := ih now
    rw [poolCourse, Pool.after_append, Pool.log_append, noted, noted']
    exact ⟨later, rfl⟩

/-- What is noted in a session while a cache is used leads from the drivers that the cache held before to those that it
holds afterwards. -/
theorem tells_noted {cache : Cache} (item : w.stores.items[q]? = some ⟨cache, limits⟩) (steps : List Step) :
    ∃ cache', (w.after steps).stores.items[q]? = some ⟨cache', limits⟩ ∧ cache.Tells (w.noted q steps) cache' := by
  have shown : w.Shows q limits ⟨cache, w.rules.items⟩ := ⟨item, rfl⟩
  obtain ⟨later, noted⟩ := shown.after steps
  refine ⟨_, later.cache, ?_⟩
  rw [← noted]
  exact Pool.tells_after _ _

end Rulebook.Session.World

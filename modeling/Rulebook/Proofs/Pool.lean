import Rulebook.Pool
import Rulebook.Proofs.Content
import Rulebook.Proofs.Settled

/-!
# Rules that stay normalised

What a step does to a pool is told by `Pool.turn_cases`. A rule that was once normalised is settled in the cache, and no
step unsettles it but clearing the cache or normalising the rule through another one (`Pool.settled_after`), whatever
the cache refuses in the meantime. So to normalise it again changes nothing but the count of look-ups
(`Pool.normalize_again_after`).
-/

namespace Rulebook.Pool

open Log (Event)

variable {p : Pool} {s : Step} {t : Turn} {steps : List Step} {place : Nat} {r : Rule} {refuses : Policy}

/-! ### One step -/

/-- What a step may do. -/
inductive Turns (p : Pool) (s : Step) : Turn → Prop where
  | idle (place : Nat) (nothing : p.rules[place]? = none)
      (act : s.act = .normalize place ∨ ∃ other, s.act = .normalizeElsewhere place other) : Turns p s p.idle
  | called (call : Cache.Call) (act : s.act = .call call) :
      Turns p s ⟨{ p with cache := (p.cache.perform s.refuses call).cache }, (p.cache.perform s.refuses call).events,
        none⟩
  | normalized (place : Nat) (r : Rule) (here : p.rules[place]? = some r) (act : s.act = .normalize place) :
      Turns p s ⟨⟨(r.normalize s.refuses p.cache).cache, p.rules.set place (r.normalize s.refuses p.cache).rule⟩,
        (r.normalize s.refuses p.cache).events, (r.normalize s.refuses p.cache).error⟩
  | elsewhere (place : Nat) (r : Rule) (other : Cache) (here : p.rules[place]? = some r)
      (act : s.act = .normalizeElsewhere place other) :
      Turns p s ⟨{ p with rules := p.rules.set place (r.normalize s.refuses other).rule }, [],
        (r.normalize s.refuses other).error⟩
  | joined (r : Rule) (act : s.act = .join r) : Turns p s ⟨{ p with rules := p.rules ++ [r] }, [], none⟩

theorem turn_cases (p : Pool) (s : Step) : Turns p s (p.turn s) := by
  obtain ⟨act, refuses⟩ := s
  cases act with
  | call call => exact .called call rfl
  | join r => exact .joined r rfl
  | normalize place =>
    unfold turn
    dsimp only
    cases here : p.rules[place]? with
    | none => exact .idle place here (Or.inl rfl)
    | some r => exact .normalized place r here rfl
  | normalizeElsewhere place other =>
    unfold turn
    dsimp only
    cases here : p.rules[place]? with
    | none => exact .idle place here (Or.inr ⟨other, rfl⟩)
    | some r => exact .elsewhere place r other here rfl

theorem turn_normalize (refuses : Policy) (here : p.rules[place]? = some r) :
    p.turn ⟨.normalize place, refuses⟩ =
      let n := r.normalize refuses p.cache
      ⟨⟨n.cache, p.rules.set place n.rule⟩, n.events, n.error⟩ := by
  simp only [turn, here]

theorem turn_normalizeElsewhere (refuses : Policy) (other : Cache) (here : p.rules[place]? = some r) :
    p.turn ⟨.normalizeElsewhere place other, refuses⟩ =
      let n := r.normalize refuses other
      ⟨{ p with rules := p.rules.set place n.rule }, [], n.error⟩ := by
  simp only [turn, here]

theorem after_cons : p.after (s :: steps) = (p.turn s).pool.after steps := rfl

theorem after_append (p : Pool) (steps more : List Step) : p.after (steps ++ more) = (p.after steps).after more :=
  List.foldl_append

theorem log_append (p : Pool) (steps more : List Step) :
    p.log (steps ++ more) = p.log steps ++ (p.after steps).log more := by
  induction steps generalizing p with
  | nil => rfl
  | cons s rest ih => simp only [List.cons_append, log, ih, after_cons, List.append_assoc]

/-- No step but clearing loses an entry of the cache. -/
theorem Turns.prefix_entries (turns : Turns p s t) (kept : s.act ≠ .call .clear) :
    p.cache.entries <+: t.pool.cache.entries := by
  cases turns with
  | idle => exact List.prefix_rfl
  | called call act =>
    apply Cache.prefix_perform
    rintro rfl
    exact kept act
  | normalized place r => exact Rule.prefix_normalize s.refuses r p.cache
  | elsewhere => exact List.prefix_rfl
  | joined => exact List.prefix_rfl

/-! ### Settled rules -/

/-- To normalise a settled rule finds each of its slots, and changes nothing else. -/
theorem turn_normalize_of_settled (here : p.rules[place]? = some r) (settled : r.SettledIn p.cache) :
    p.turn ⟨.normalize place, refuses⟩ =
      ⟨{ p with cache := p.cache.count r.slots.length 0 }, [.replaced r.identifier r.slots.length 0], none⟩ := by
  have same : p.rules.set place r = p.rules := by
    obtain ⟨inside, rfl⟩ := List.getElem?_eq_some_iff.1 here
    exact List.set_getElem_self inside
  rw [turn_normalize refuses here, Rule.normalize_of_settled settled]
  dsimp only
  rw [same]

/-- No step changes a settled rule or unsettles it, but clearing the cache and normalising the rule through another. -/
theorem Turns.settled (turns : Turns p s t) (here : p.rules[place]? = some r) (settled : r.SettledIn p.cache)
    (kept : s.act ≠ .call .clear) (only : ∀ other, s.act ≠ .normalizeElsewhere place other) :
    t.pool.rules[place]? = some r ∧ r.SettledIn t.pool.cache := by
  refine ⟨?_, settled.of_grown (turns.prefix_entries kept)⟩
  -- only to normalise a rule replaces one, and the rule itself is found settled then
  cases turns with
  | idle => exact here
  | called => exact here
  | joined r' => exact (List.getElem?_append_left (List.getElem?_eq_some_iff.1 here).1).trans here
  | normalized place' r' here' =>
    show (p.rules.set place' _)[place]? = some r
    by_cases again : place' = place
    · subst again
      cases Option.some.inj (here.symm.trans here')
      rw [Rule.normalize_of_settled settled]
      exact List.getElem?_set_self (List.getElem?_eq_some_iff.1 here).1
    · rw [List.getElem?_set_ne again, here]
  | elsewhere place' r' other _ act =>
    have apart : place' ≠ place := by
      rintro rfl
      exact only other act
    show (p.rules.set place' _)[place]? = some r
    rw [List.getElem?_set_ne apart, here]

theorem settled_after (here : p.rules[place]? = some r) (settled : r.SettledIn p.cache)
    (kept : ∀ s ∈ steps, s.act ≠ .call .clear)
    (only : ∀ s ∈ steps, ∀ other, s.act ≠ .normalizeElsewhere place other) :
    (p.after steps).rules[place]? = some r ∧ r.SettledIn (p.after steps).cache := by
  induction steps generalizing p with
  | nil => exact ⟨here, settled⟩
  | cons s rest ih =>
    rw [List.forall_mem_cons] at kept only
    obtain ⟨here', settled'⟩ := (turn_cases p s).settled here settled kept.1 only.1
    rw [after_cons]
    exact ih here' settled' kept.2 only.2

/-- A rule that was normalised says what it said, and is settled. -/
theorem exists_settled_of_normalized (here : p.rules[place]? = some r)
    (completed : (p.turn ⟨.normalize place, refuses⟩).error = none) :
    let q := (p.turn ⟨.normalize place, refuses⟩).pool
    ∃ r', q.rules[place]? = some r' ∧ r'.SameContent r ∧ r'.SettledIn q.cache := by
  rw [turn_normalize refuses here] at completed ⊢
  refine ⟨(r.normalize refuses p.cache).rule, ?_, Rule.sameContent_normalize refuses r p.cache, ?_⟩
  · exact List.getElem?_set_self (List.getElem?_eq_some_iff.1 here).1
  · exact Rule.settled_normalize completed

/-- A rule that was normalised through a cache keeps the instances that it then holds, however the cache is called and
whatever rules are normalised through it afterwards, as long as nobody clears it and the rule is not normalised through
another cache. To normalise it again, at any time and whatever the cache refuses, succeeds, changes no entry and no
rule, notes that nothing was put in, and counts as many look-ups that found an instance as the rule has slots. -/
theorem normalize_again_after (p : Pool) (place : Nat) (r : Rule) (first : Policy) (steps : List Step)
    (here : p.rules[place]? = some r)
    (completed : (p.turn ⟨.normalize place, first⟩).error = none)
    (kept : ∀ s ∈ steps, s.act ≠ .call .clear)
    (only : ∀ s ∈ steps, ∀ other, s.act ≠ .normalizeElsewhere place other) :
    let q := (p.turn ⟨.normalize place, first⟩).pool
    let q' := q.after steps
    (∃ r', q.rules[place]? = some r' ∧ r'.SameContent r ∧ q'.rules[place]? = some r') ∧
      ∀ again : Policy, let t := q'.turn ⟨.normalize place, again⟩
        t.error = none ∧
          t.pool.rules = q'.rules ∧
          t.pool.cache.entries = q'.cache.entries ∧
          t.pool.cache.hits = q'.cache.hits + r.slots.length ∧
          t.pool.cache.misses = q'.cache.misses ∧
          t.events = [.replaced r.identifier r.slots.length 0] := by
  intro q q'
  obtain ⟨r', first_here, same, settled⟩ := exists_settled_of_normalized here completed
  obtain ⟨here', settled'⟩ := settled_after first_here settled kept only
  refine ⟨⟨r', first_here, same, here'⟩, fun again => ?_⟩
  have size : r'.slots.length = r.slots.length := by
    have drivers := congrArg List.length same.drivers
    rwa [Rule.drivers, Rule.drivers, List.length_map, List.length_map] at drivers
  dsimp only
  rw [turn_normalize_of_settled here' settled', size, same.identifier]
  exact ⟨rfl, rfl, rfl, rfl, rfl, rfl⟩

/-- A rule keeps its instances, and is normalised again without fail, through a cache that refuses everything by then
and stops another rule at its first slot. -/
theorem normalize_again_after_full :
    let a : Driver := ⟨"A", .string⟩
    let b : Driver := ⟨"B", .regex⟩
    let everything : Policy := fun _ _ => true
    let p : Pool := ⟨.empty, [⟨none, none, [⟨a, 1⟩, ⟨b, 2⟩, ⟨a, 3⟩], .empty, .ofBounds none none⟩,
      ⟨none, none, [⟨⟨"C", .string⟩, 4⟩, ⟨a, 5⟩], .empty, .ofBounds none none⟩]⟩
    let steps : List Step := [⟨.normalize 1, everything⟩, ⟨.call (.put ⟨b, 6⟩), .acceptAll⟩, ⟨.normalize 0, everything⟩,
      ⟨.normalizeElsewhere 1 .empty, .acceptAll⟩, ⟨.call (.get b), everything⟩]
    let q' := (p.turn ⟨.normalize 0, .acceptAll⟩).pool.after steps
    let t := q'.turn ⟨.normalize 0, everything⟩
    (p.turn ⟨.normalize 0, .acceptAll⟩).error = none ∧
      q'.rules.map (fun r => r.slots.map Instance.tag) = [[1, 2, 1], [4, 5]] ∧
      t.error = none ∧ t.pool.rules = q'.rules ∧ t.pool.cache.counts = ⟨2, 10, 4⟩ ∧ t.events = [.replaced none 3 0] := by
  intro a b everything p steps q' t
  have completed : (p.turn ⟨.normalize 0, .acceptAll⟩).error = none := by decide
  obtain ⟨-, again⟩ := normalize_again_after p 0 _ .acceptAll steps rfl completed (by decide) (by simp [steps])
  obtain ⟨error, rules, -, -, -, events⟩ := again everything
  exact ⟨completed, by decide, error, rules, by decide, events⟩

end Rulebook.Pool

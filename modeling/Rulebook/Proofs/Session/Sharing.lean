import Rulebook.Proofs.Session.Rules
import Rulebook.Proofs.Settled

/-!
# Rules that share their drivers

Rules that are normalised through one cache, and through no other, share its entries: as long as the cache is not
cleared, two of their slots hold the same instance exactly if they hold equal drivers (`World.sharing_after`). For this,
a rule that is settled in a cache stays so in every step (`World.settled_turn`), and a step that normalises a rule
settles it.
-/

namespace Rulebook.Session.World

variable {w : World} {s : Step} {p q : Nat} {r : Rule} {store : Store}

/-! ### What a step does at one place -/

theorem mem_uses_cons {u : Nat × Use} {rest : List Step} :
    u ∈ w.uses (s :: rest) ↔ w.use? s = some u ∨ u ∈ (w.turn s).world.uses rest := by
  rw [uses, List.mem_append, Option.mem_toList]

/-- A cache keeps its place and its limits. It is as it was, or called, or a rule was normalised through it. -/
theorem cache_turn (item : w.stores.items[q]? = some store) :
    ∃ cache, (w.turn s).world.stores.items[q]? = some { store with cache } ∧
      (cache = store.cache ∨
        (∃ call, w.use? s = some (q, .call call) ∧
          cache = (store.cache.perform store.limits.refuses call).cache) ∨
        ∃ p r, w.use? s = some (q, .normalize p) ∧ w.rules.items[p]? = some r ∧
          cache = (r.normalize store.limits.refuses store.cache).cache) := by
  cases effect w s with
  | idle _ _ stores =>
    rw [stores]
    exact ⟨store.cache, item, Or.inl rfl⟩
  | madeRule _ _ _ _ _ stores =>
    rw [stores]
    exact ⟨store.cache, item, Or.inl rfl⟩
  | madeCache name limits _ _ stores =>
    rw [stores]
    exact ⟨store.cache, Registry.item_add item name _, Or.inl rfl⟩
  | called place st call use held _ stores =>
    rw [stores]
    by_cases here : q = place
    · subst here
      cases Option.some.inj (item.symm.trans held)
      exact ⟨_, Registry.item_replace_self item _, Or.inr (Or.inl ⟨call, use, rfl⟩)⟩
    · rw [Registry.items_replace _ _ _ _ here]
      exact ⟨store.cache, item, Or.inl rfl⟩
  | normalized _ _ _ p r place st use named held turn =>
    rw [turn]
    show ∃ cache, (w.stores.replace place _).items[q]? = some _ ∧ _
    by_cases here : q = place
    · subst here
      cases Option.some.inj (item.symm.trans (Registry.item_of_find? held))
      refine ⟨_, Registry.item_replace_self item _, Or.inr (Or.inr ⟨p, r, use, ?_, rfl⟩)⟩
      exact Registry.item_of_find? named
    · rw [Registry.items_replace _ _ _ _ here]
      exact ⟨store.cache, item, Or.inl rfl⟩

/-- Only clearing loses entries. -/
theorem prefix_turn (item : w.stores.items[q]? = some store) (kept : w.use? s ≠ some (q, .call .clear)) :
    ∃ cache, (w.turn s).world.stores.items[q]? = some { store with cache } ∧
      store.cache.entries <+: cache.entries := by
  obtain ⟨cache, item', same | ⟨call, use, called⟩ | ⟨p, r, _, _, passed⟩⟩ := cache_turn (s := s) item
  · exact ⟨cache, item', by rw [same]⟩
  · refine ⟨cache, item', ?_⟩
    rw [called]
    apply Cache.prefix_perform
    rintro rfl
    exact kept use
  · refine ⟨cache, item', ?_⟩
    rw [passed]
    exact Rule.prefix_normalize _ r _

/-- A rule is left as it is by all steps but those that normalise it. -/
theorem rule_turn (item : w.rules.items[p]? = some r) (other : ∀ q, w.use? s ≠ some (q, .normalize p)) :
    (w.turn s).world.rules.items[p]? = some r := by
  cases effect w s with
  | idle _ rules => rw [rules, item]
  | madeRule name _ _ made rules => rw [rules]; exact Registry.item_add item name made
  | madeCache _ _ _ rules => rw [rules, item]
  | called _ _ _ _ _ rules => rw [rules, item]
  | normalized _ _ _ rulePlace rule place st use named _ turn =>
    have elsewhere : p ≠ rulePlace := by
      rintro rfl
      exact other place use
    rw [turn]
    show (w.rules.replace rulePlace _).items[p]? = some r
    rw [Registry.items_replace _ _ _ _ elsewhere, item]

theorem normalize_turn (use : w.use? s = some (q, .normalize p)) :
    ∃ r store, w.rules.items[p]? = some r ∧ w.stores.items[q]? = some store ∧
      let n := r.normalize store.limits.refuses store.cache
      (w.turn s).world.rules.items[p]? = some n.rule ∧
        (w.turn s).world.stores.items[q]? = some { store with cache := n.cache } := by
  cases effect w s with
  | idle unused => rw [unused] at use; cases use
  | madeRule _ _ step => rw [step] at use; cases use
  | madeCache _ _ step => rw [step] at use; cases use
  | called _ _ _ use' => rw [use'] at use; cases use
  | normalized _ _ _ rulePlace r place store use' named held turn =>
    rw [use'] at use
    cases use
    have rule := Registry.item_of_find? named
    have item := Registry.item_of_find? held
    rw [turn]
    exact ⟨r, store, rule, item, Registry.item_replace_self rule _, Registry.item_replace_self item _⟩

theorem prefix_after (item : w.stores.items[q]? = some store) {steps : List Step}
    (kept : (q, .call .clear) ∉ w.uses steps) :
    ∃ cache, (w.after steps).stores.items[q]? = some { store with cache } ∧
      store.cache.entries <+: cache.entries := by
  induction steps generalizing w store with
  | nil => exact ⟨store.cache, item, List.prefix_rfl⟩
  | cons s rest ih =>
    rw [mem_uses_cons, not_or] at kept
    obtain ⟨cache₁, item₁, grown₁⟩ := prefix_turn item kept.1
    obtain ⟨cache, item', grown⟩ := ih item₁ kept.2
    exact ⟨cache, item', grown₁.trans grown⟩

/-! ### Settled rules -/

/-- A settled rule stays as it is and settled, until its cache is cleared or it is normalised through another one. -/
theorem settled_turn (rule : w.rules.items[p]? = some r) (item : w.stores.items[q]? = some store)
    (settled : r.SettledIn store.cache) (kept : w.use? s ≠ some (q, .call .clear))
    (only : ∀ other, w.use? s = some (other, .normalize p) → other = q) :
    ∃ cache, (w.turn s).world.rules.items[p]? = some r ∧
      (w.turn s).world.stores.items[q]? = some { store with cache } ∧ r.SettledIn cache := by
  -- to be normalised again through the same cache is the one use that might change a settled rule
  by_cases again : w.use? s = some (q, .normalize p)
  · obtain ⟨r₁, store₁, rule₁, item₁, rule', item'⟩ := normalize_turn again
    cases Option.some.inj (rule.symm.trans rule₁)
    cases Option.some.inj (item.symm.trans item₁)
    rw [Rule.normalize_of_settled settled] at rule' item'
    exact ⟨_, rule', item', settled⟩
  · obtain ⟨cache, item', grown⟩ := prefix_turn item kept
    refine ⟨cache, rule_turn rule fun other use => ?_, item', settled.of_grown grown⟩
    exact again (only other use ▸ use)

theorem settled_after (rule : w.rules.items[p]? = some r) (item : w.stores.items[q]? = some store)
    (settled : r.SettledIn store.cache) {steps : List Step} (kept : (q, .call .clear) ∉ w.uses steps)
    (only : ∀ other, (other, .normalize p) ∈ w.uses steps → other = q) :
    ∃ cache, (w.after steps).rules.items[p]? = some r ∧
      (w.after steps).stores.items[q]? = some { store with cache } ∧ r.SettledIn cache := by
  induction steps generalizing w store with
  | nil => exact ⟨store.cache, rule, item, settled⟩
  | cons s rest ih =>
    rw [mem_uses_cons, not_or] at kept
    obtain ⟨cache, rule', item', settled'⟩ :=
      settled_turn rule item settled kept.1 fun other use => only other (mem_uses_cons.2 (Or.inl use))
    have later := ih rule' item' settled' kept.2 fun other use => only other (mem_uses_cons.2 (Or.inr use))
    exact later

/-- A rule that is normalised in a run through a cache without limits, and through no other, is settled in the end. -/
theorem settled_of_normalized {steps : List Step} {cache : Cache}
    (item : w.stores.items[q]? = some ⟨cache, .unlimited⟩) (kept : (q, .call .clear) ∉ w.uses steps)
    (normalized : (q, .normalize p) ∈ w.uses steps)
    (only : ∀ other, (other, .normalize p) ∈ w.uses steps → other = q) :
    ∃ r cache', (w.after steps).rules.items[p]? = some r ∧
      (w.after steps).stores.items[q]? = some ⟨cache', .unlimited⟩ ∧ r.SettledIn cache' := by
  induction steps generalizing w cache with
  | nil => cases normalized
  | cons s rest ih =>
    rw [mem_uses_cons, not_or] at kept
    have only' : ∀ other, (other, .normalize p) ∈ (w.turn s).world.uses rest → other = q :=
      fun other use => only other (mem_uses_cons.2 (Or.inr use))
    rcases mem_uses_cons.1 normalized with now | later
    · obtain ⟨r, store, _, item₁, rule', item'⟩ := normalize_turn now
      cases Option.some.inj (item.symm.trans item₁)
      have succeeded : (r.normalize .acceptAll cache).error = none := by rw [Rule.normalize_acceptAll]
      obtain ⟨cache', settled⟩ := settled_after rule' item' (Rule.settled_normalize succeeded) kept.2 only'
      exact ⟨_, cache', settled⟩
    · obtain ⟨cache₁, item₁, _⟩ := prefix_turn item kept.1
      exact ih item₁ kept.2 later only'

/-! ### Where entries come from -/

/-- An entry of a cache was one before a step, or was put in, or was in a slot of a rule that the step normalises. -/
theorem mem_entries_turn {store' : Store} {e : Instance} (item : w.stores.items[q]? = some store)
    (item' : (w.turn s).world.stores.items[q]? = some store') (he : e ∈ store'.cache.entries) :
    e ∈ store.cache.entries ∨ w.use? s = some (q, .call (.put e)) ∨
      ∃ p r, w.use? s = some (q, .normalize p) ∧ w.rules.items[p]? = some r ∧ e ∈ r.slots := by
  obtain ⟨cache, item₁, cases⟩ := cache_turn (s := s) item
  cases Option.some.inj (item'.symm.trans item₁)
  rcases cases with same | ⟨call, use, called⟩ | ⟨p, r, use, rule, passed⟩
  · rw [same] at he
    exact Or.inl he
  · rw [called] at he
    rcases Cache.mem_entries_perform he with old | rfl
    · exact Or.inl old
    · exact Or.inr (Or.inl use)
  · rw [passed] at he
    rcases Rule.mem_entries_normalize he with old | new
    · exact Or.inl old
    · exact Or.inr (Or.inr ⟨p, r, use, rule, new⟩)

/-- One of the rules at some places has a driver. -/
def HasDriver (w : World) (rules : List Nat) (d : Driver) : Prop :=
  ∃ p ∈ rules, ∃ r, w.rules.items[p]? = some r ∧ d ∈ r.drivers

theorem hasDriver_turn {rules : List Nat} {d : Driver} (has : w.HasDriver rules d) :
    (w.turn s).world.HasDriver rules d := by
  obtain ⟨p, hp, r, item, hd⟩ := has
  obtain ⟨r', item', same, _⟩ := item_turn (s := s) item
  exact ⟨p, hp, r', item', same.drivers ▸ hd⟩

/-- If a cache is fed by some rules alone, each of its entries is one of a driver of theirs. -/
theorem hasDriver_after {rules : List Nat} {steps : List Step} (item : w.stores.items[q]? = some store)
    (covered : ∀ e ∈ store.cache.entries, w.HasDriver rules e.driver)
    (unfed : ∀ i, (q, .call (.put i)) ∉ w.uses steps)
    (fed : ∀ p, (q, .normalize p) ∈ w.uses steps → p ∈ rules) :
    ∃ store', (w.after steps).stores.items[q]? = some store' ∧
      ∀ e ∈ store'.cache.entries, (w.after steps).HasDriver rules e.driver := by
  induction steps generalizing w store with
  | nil => exact ⟨store, item, covered⟩
  | cons s rest ih =>
    obtain ⟨cache, item₁, _⟩ := cache_turn (s := s) item
    refine ih item₁ (fun e he => ?_) (fun i use => ?_) fun p use => fed p (mem_uses_cons.2 (Or.inr use))
    · rcases mem_entries_turn item item₁ he with old | put | ⟨p, r, use, rule, he⟩
      · exact hasDriver_turn (covered e old)
      · exact absurd (mem_uses_cons.2 (Or.inl put)) (unfed e)
      · have hp : p ∈ rules := fed p (mem_uses_cons.2 (Or.inl use))
        exact hasDriver_turn ⟨p, hp, r, rule, List.mem_map_of_mem he⟩
    · exact unfed i (mem_uses_cons.2 (Or.inr use))

/-! ### Sharing -/

theorem mem_slotsOf {rules : List Nat} {i : Instance} :
    i ∈ w.slotsOf rules ↔ ∃ p ∈ rules, ∃ r, w.rules.items[p]? = some r ∧ i ∈ r.slots := by
  simp only [slotsOf, List.mem_flatMap, List.mem_filterMap]
  constructor
  · rintro ⟨r, ⟨p, hp, item⟩, hi⟩
    exact ⟨p, hp, r, item, hi⟩
  · rintro ⟨p, hp, r, item, hi⟩
    exact ⟨r, ⟨p, hp, item⟩, hi⟩

/-- Where settled rules have all drivers of a cache, the instances that they hold are the entries of the cache. -/
theorem card_slotsOf {rules : List Nat} {cache : Cache} (settled : w.slotsOf rules ⊆ cache.entries)
    (covered : ∀ e ∈ cache.entries, w.HasDriver rules e.driver) :
    (w.slotsOf rules).toFinset.card = cache.size := by
  have held : cache.entries ⊆ w.slotsOf rules := by
    intro e he
    obtain ⟨p, hp, r, rule, hd⟩ := covered e he
    obtain ⟨i, hi, same⟩ := List.mem_map.1 hd
    have hi' : i ∈ w.slotsOf rules := mem_slotsOf.2 ⟨p, hp, r, rule, hi⟩
    rw [← Cache.eq_of_driver_eq (settled hi') he same]
    exact hi'
  have same : (w.slotsOf rules).toFinset = cache.entries.toFinset := by
    ext i
    rw [List.mem_toFinset, List.mem_toFinset]
    exact ⟨fun hi => settled hi, fun hi => held hi⟩
  rw [same, List.toFinset_card_of_nodup (List.Nodup.of_map _ cache.drivers_nodup), Cache.size]

/-- In a session that does not clear a cache without limits, rules that are each normalised through that cache at least
once, and through no other, share its entries in the end: every slot holds the instance that the cache finds of its
driver, so two slots hold the same instance exactly if they hold equal drivers. If the cache was new and nothing else
was put into it, the rules hold as many different instances as the cache has drivers. -/
theorem sharing_after (w : World) (steps : List Step) (place : Nat) (cache : Cache) (rules : List Nat)
    (unlimited : w.stores.items[place]? = some ⟨cache, .unlimited⟩)
    (kept : (place, .call .clear) ∉ w.uses steps)
    (normalized : ∀ p ∈ rules, (place, .normalize p) ∈ w.uses steps)
    (only : ∀ p ∈ rules, ∀ other, (other, .normalize p) ∈ w.uses steps → other = place) :
    let w' := w.after steps
    ∃ cache', w'.stores.items[place]? = some ⟨cache', .unlimited⟩ ∧
      (∀ p ∈ rules, ∃ r', w'.rules.items[p]? = some r' ∧ ∀ r, w.rules.items[p]? = some r → r'.drivers = r.drivers) ∧
      (∀ i ∈ w'.slotsOf rules, (cache'.get i.driver).1 = some i) ∧
      (∀ i ∈ w'.slotsOf rules, ∀ j ∈ w'.slotsOf rules, i = j ↔ i.driver = j.driver) ∧
      (cache.entries = [] → (∀ i, (place, .call (.put i)) ∉ w.uses steps) →
        (∀ p, (place, .normalize p) ∈ w.uses steps → p ∈ rules) →
        (w'.slotsOf rules).toFinset.card = cache'.size) := by
  intro w'
  obtain ⟨cache', item', _⟩ := prefix_after unlimited kept
  have settledAt : ∀ p ∈ rules, ∃ r, w'.rules.items[p]? = some r ∧ r.SettledIn cache' := by
    intro p hp
    obtain ⟨r, cache₁, rule, item₁, settled⟩ :=
      settled_of_normalized unlimited kept (normalized p hp) (only p hp)
    cases Option.some.inj (item'.symm.trans item₁)
    exact ⟨r, rule, settled⟩
  have settled : w'.slotsOf rules ⊆ cache'.entries := by
    intro i hi
    obtain ⟨p, hp, r, rule, hi⟩ := mem_slotsOf.1 hi
    obtain ⟨r₁, rule₁, settled⟩ := settledAt p hp
    cases Option.some.inj (rule.symm.trans rule₁)
    exact settled hi
  refine ⟨cache', item', fun p hp => ?_, fun i hi => ?_, fun i hi j hj => ?_, fun new unfed fed => ?_⟩
  · obtain ⟨r', rule', _⟩ := settledAt p hp
    refine ⟨r', rule', fun r rule => ?_⟩
    obtain ⟨r₁, rule₁, same, _⟩ := item_after rule steps
    cases Option.some.inj (rule'.symm.trans rule₁)
    exact same.drivers
  · rw [Cache.fst_get]
    exact Cache.find?_of_mem (settled hi)
  · exact Cache.eq_iff_driver_eq (settled hi) (settled hj)
  · have covered : ∀ e ∈ cache.entries, w.HasDriver rules e.driver := by
      rw [new]
      intro e he
      cases he
    obtain ⟨store, item₁, covered'⟩ := hasDriver_after unlimited covered unfed fed
    cases Option.some.inj (item'.symm.trans item₁)
    exact card_slotsOf settled covered'

/-- Two rules with five slots hold the three drivers of a new cache after the second, the first and the second again
were normalised through it, with a look-up in between. -/
theorem sharing_after_two :
    let w := initial.after [.makeCache "drivers" .unlimited,
      .makeRule "a" ⟨none, none, .listed [(.plain "A", 1), (.plain "B", 1), (.plain "A", 1)] [], none, none⟩,
      .makeRule "b" ⟨none, none, .listed [(.plain "B", 1), (.typed "A" "regex", 1)] [], none, none⟩]
    let steps : List Step := [.normalize "b" "drivers", .get "drivers" "A" "string", .normalize "a" "drivers",
      .normalize "b" "drivers"]
    w.uses steps = [(0, .normalize 1), (0, .call (.get ⟨"A", .string⟩)), (0, .normalize 0), (0, .normalize 1)] ∧
      ((w.after steps).slotsOf [0, 1]).map Instance.tag = [0, 3, 0, 3, 4] ∧
      ∃ cache, (w.after steps).stores.items[0]? = some ⟨cache, .unlimited⟩ ∧
        ((w.after steps).slotsOf [0, 1]).toFinset.card = cache.size := by
  intro w steps
  have used : w.uses steps =
    [(0, .normalize 1), (0, .call (.get ⟨"A", .string⟩)), (0, .normalize 0), (0, .normalize 1)] := by decide +kernel
  have held : w.stores.items[0]? = some ⟨.empty, .unlimited⟩ := by rfl
  obtain ⟨cache, item, -, -, -, shared⟩ := sharing_after w steps 0 .empty [0, 1] held
    (by rw [used]; decide)
    (by rw [used]; decide)
    (by rw [used]; simp)
  refine ⟨used, by decide +kernel, cache, item, shared rfl ?_ ?_⟩
  · rw [used]
    simp
  · rw [used]
    simp

end Rulebook.Session.World

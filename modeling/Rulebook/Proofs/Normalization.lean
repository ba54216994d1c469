import Rulebook.Proofs.Pass

/-!
# What normalising a rule does

Through a cache that refuses nothing, all slots of a rule are replaced (`normalize_unlimited`). Through a cache with
limits, normalising stops at the first slot whose driver is neither in the cache nor in a slot before it and falls
under the limits, which count what the slots before it brought in (`normalize_limited`).
-/

namespace Rulebook

open Log (Event)

/-! ### Limits -/

namespace Limits

variable {l : Limits} {c : Cache} {slots : List Instance} {k : Nat}

theorem refuses_iff {entries : List Instance} {d : Driver} :
    l.refuses entries d = true ↔
      l.drop = .everything ∨ (∃ values, l.drop = .values values ∧ d.value ∈ values) ∨
        ∃ capacity, l.capacity = some capacity ∧ capacity ≤ (entries.length : Int) := by
  obtain ⟨drop, capacity⟩ := l
  cases drop <;> simp [refuses, Option.any_eq_true]

/-- Whether a cache with limits refuses the slot at a place: the driver of the slot is neither in the cache nor in a
slot before it, and it is dropped, or the cache is full of what it held and what it lacked of the slots before. -/
def RefusesSlot (l : Limits) (c : Cache) (slots : List Instance) (k : Nat) : Prop :=
  ∃ s, slots[k]? = some s ∧ c.find? s.driver = none ∧ (∀ t ∈ slots.take k, t.driver ≠ s.driver) ∧
    (l.drop = .everything ∨ (∃ values, l.drop = .values values ∧ s.driver.value ∈ values) ∨
      ∃ capacity, l.capacity = some capacity ∧ capacity ≤ ((c.size + (c.missing (slots.take k)).length : Nat) : Int))

theorem refusedAt_iff : Pass.RefusedAt l.refuses c slots k ↔ l.RefusesSlot c slots k := by
  refine exists_congr fun s => and_congr_right fun _ => ?_
  rw [Cache.find?_addAll_eq_none_iff, refuses_iff, ← Cache.size_addAll, Cache.size, and_assoc]

instance : Decidable (l.RefusesSlot c slots k) := decidable_of_iff _ refusedAt_iff

end Limits

namespace Rule

variable {refuses : Policy} {r : Rule} {c : Cache}

/-! ### Passes of rules -/

theorem normalize_of_complete (all : Pass.run refuses r.slots c = Pass.complete r.slots c) :
    r.normalize refuses c =
      let p := Pass.complete r.slots c
      ⟨{ r with slots := p.slots }, p.cache, p.events ++ [.replaced r.identifier r.slots.length p.inserted], none⟩ := by
  rw [normalize, all]
  simp only [Pass.complete, List.length_map]

theorem normalize_acceptAll (r : Rule) (c : Cache) :
    r.normalize .acceptAll c =
      let p := Pass.complete r.slots c
      ⟨{ r with slots := p.slots }, p.cache, p.events ++ [.replaced r.identifier r.slots.length p.inserted], none⟩ :=
  normalize_of_complete (Pass.run_eq_complete (Pass.not_refusedAt_acceptAll r.slots))

theorem normalize_of_stopped {before after : List Instance} {s : Instance}
    (stops : Pass.run refuses r.slots c = Pass.stopped before s after c) :
    r.normalize refuses c =
      let p := Pass.stopped before s after c
      ⟨{ r with slots := p.slots }, p.cache, p.events, some ⟨r.identifier, s.driver⟩⟩ := by
  rw [normalize, stops]
  rfl

theorem rule_normalize : (r.normalize refuses c).rule = { r with slots := (Pass.run refuses r.slots c).slots } := by
  cases h : (Pass.run refuses r.slots c).refused <;> simp [normalize, h]

theorem error_normalize :
    (r.normalize refuses c).error = (Pass.run refuses r.slots c).refused.map fun d => ⟨r.identifier, d⟩ := by
  cases h : (Pass.run refuses r.slots c).refused <;> simp [normalize, h]

/-- Every slot of a complete pass holds what the cache held of its driver, or else the first instance of that driver
among the slots. -/
theorem slots_complete (slots : List Instance) (c : Cache) :
    (Pass.complete slots c).slots.map some =
      slots.map fun s => (c.find? s.driver).or (slots.find? (·.driver == s.driver)) := by
  rw [Pass.complete, List.map_map]
  refine List.map_congr_left fun s hs => ?_
  rw [Function.comp_apply, ← Cache.find?_addAll_of_mem hs, Cache.find?_addAll]

/-- The slots of a pass that was completed hold what the cache then holds of their drivers. -/
theorem slots_complete_eq_find? (slots : List Instance) (c : Cache) :
    (Pass.complete slots c).slots.map some = slots.map fun s => (Pass.complete slots c).cache.find? s.driver := by
  rw [Pass.complete, List.map_map]
  refine List.map_congr_left fun s hs => ?_
  rw [Function.comp_apply, ← Cache.find?_addAll_of_mem hs, Cache.find?_count]

/-! ### Without limits -/

/-- Through a cache that refuses nothing, every slot of a rule gets the instance that the cache held of its driver, and
if there was none the first one of the rule's own. What the cache lacked is added to it in the order of the slots, once
for each driver; every slot is found once, and what was lacking was looked up once in vain. -/
theorem normalize_unlimited (r : Rule) (c : Cache) :
    let n := r.normalize .acceptAll c
    let gained := c.missing r.slots
    n.error = none ∧
      n.rule = { r with slots := n.rule.slots } ∧
      (n.rule.slots.map some = r.slots.map fun s => (c.find? s.driver).or (r.slots.find? (·.driver == s.driver))) ∧
      n.cache.entries = c.entries ++ gained ∧
      gained.length = {d ∈ r.drivers.toFinset | c.find? d = none}.card ∧
      n.cache.hits = c.hits + r.slots.length ∧
      n.cache.misses = c.misses + gained.length ∧
      n.cache.size = c.size + gained.length ∧
      n.events = (gained.map fun s => Event.cached s.driver) ++
        [.replaced r.identifier r.slots.length gained.length] := by
  have all := Pass.run_eq_complete (Pass.not_refusedAt_acceptAll (c := c) r.slots)
  rw [normalize_of_complete all]
  refine ⟨rfl, rfl, slots_complete r.slots c, Cache.entries_addAll r.slots, Cache.length_missing r.slots, ?_, ?_, ?_,
    rfl⟩
  · show ((c.addAll r.slots).count _ _).hits = _
    rw [Cache.hits_count, Cache.hits_addAll]
  · show ((c.addAll r.slots).count _ _).misses = _
    rw [Cache.misses_count, Cache.misses_addAll]
  · exact Cache.size_addAll r.slots

/-! ### With limits -/

/-- Through a cache with limits, a rule can be normalised unless one of its slots is refused. At the first slot that is,
normalising stops: the slots before it hold what the cache now holds of their drivers, and it and all behind it are as
they were; the cache has what it lacked of the slots before; the refused driver was looked up twice in vain, and is told
with the identifier of the rule. -/
theorem normalize_limited (l : Limits) (r : Rule) (c : Cache) :
    let n := r.normalize l.refuses c
    (n.error.isSome = true ↔ ∃ k, l.RefusesSlot c r.slots k) ∧
      ∀ k s, r.slots[k]? = some s → l.RefusesSlot c r.slots k → (∀ j < k, ¬ l.RefusesSlot c r.slots j) →
        let gained := c.missing (r.slots.take k)
        n.rule = { r with slots := n.rule.slots } ∧
          (n.rule.slots.take k).map some = ((r.slots.take k).map fun t => n.cache.find? t.driver) ∧
          n.rule.slots.drop k = r.slots.drop k ∧
          n.cache.entries = c.entries ++ gained ∧
          n.cache.hits = c.hits + k ∧
          n.cache.misses = c.misses + gained.length + 2 ∧
          n.events = (gained.map fun t => Event.cached t.driver) ∧
          n.error = some ⟨r.identifier, s.driver⟩ ∧
          n.error.map RefusedDriver.problem =
            some ⟨.driverCache, .str "DRIVER_CACHE_ERROR", .str "Driver missing from cache after insert",
              .obj [("rule_id", .str (Uuid.textOf r.identifier)), ("value", .str s.driver.value),
                ("type", .str s.driver.type.name)]⟩ := by
  refine ⟨?_, fun k s at_k refused first => ?_⟩
  · rw [error_normalize, Option.isSome_map, Pass.refused_run_isSome_iff]
    exact exists_congr fun k => Limits.refusedAt_iff
  · have stops := Pass.run_eq_stopped at_k (Limits.refusedAt_iff.2 refused) fun j hj h =>
      first j hj (Limits.refusedAt_iff.1 h)
    have hk : (r.slots.take k).length = k := List.length_take_of_le (List.getElem?_eq_some_iff.1 at_k).1.le
    have hlen : (Pass.complete (r.slots.take k) c).slots.length = k := by rw [Pass.complete, List.length_map, hk]
    have hrest : s :: r.slots.drop (k + 1) = r.slots.drop k := by
      obtain ⟨hlt, rfl⟩ := List.getElem?_eq_some_iff.1 at_k
      exact (List.drop_eq_getElem_cons hlt).symm
    rw [normalize_of_stopped stops]
    refine ⟨rfl, ?_, ?_, Cache.entries_addAll _, ?_, ?_, rfl, rfl, rfl⟩
    · show (((Pass.complete (r.slots.take k) c).slots ++ s :: r.slots.drop (k + 1)).take k).map some = _
      rw [List.take_left' hlen]
      exact slots_complete_eq_find? _ c
    · show ((Pass.complete (r.slots.take k) c).slots ++ s :: r.slots.drop (k + 1)).drop k = _
      rw [List.drop_left' hlen, hrest]
    · show (((c.addAll (r.slots.take k)).count _ _).count 0 2).hits = _
      rw [Cache.count_count, Cache.hits_count, Cache.hits_addAll, hk, Nat.add_zero]
    · show (((c.addAll (r.slots.take k)).count _ _).count 0 2).misses = _
      rw [Cache.count_count, Cache.misses_count, Cache.misses_addAll, Nat.add_assoc]

/-- Where there is room for one more driver, the second that is missing stops a rule, though not before slots whose
drivers are held or were brought in by the rule itself. -/
theorem normalize_limited_full :
    let l : Limits := ⟨.nothing, some 2⟩
    let c : Cache := ⟨[⟨⟨"A", .string⟩, 0⟩], 5, 7, by decide⟩
    let r : Rule := ⟨none, none, [⟨⟨"B", .string⟩, 1⟩, ⟨⟨"A", .string⟩, 2⟩, ⟨⟨"B", .string⟩, 3⟩, ⟨⟨"A", .regex⟩, 4⟩,
      ⟨⟨"A", .string⟩, 5⟩], .empty, .ofBounds none none⟩
    let n := r.normalize l.refuses c
    l.RefusesSlot c r.slots 3 ∧ (∀ j < 3, ¬ l.RefusesSlot c r.slots j) ∧
      n.rule.slots.drop 3 = r.slots.drop 3 ∧ n.cache.misses = 10 ∧ n.error = some ⟨none, ⟨"A", .regex⟩⟩ := by
  intro l c r n
  have refused : l.RefusesSlot c r.slots 3 := by decide
  have first : ∀ j < 3, ¬ l.RefusesSlot c r.slots j := by decide
  obtain ⟨-, -, rest, -, -, misses, -, error, -⟩ := (normalize_limited l r c).2 3 _ rfl refused first
  exact ⟨refused, first, rest, misses.trans (by decide), error⟩

end Rule

end Rulebook

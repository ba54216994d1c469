import Rulebook.Proofs.Settled

/-!
# Normalising again

What a cache refuses shows only in where it stops a rule. A rule that gets through is normalised as if the cache
refused nothing, and a rule that was stopped can be normalised again, through the cache that it left behind: if nothing
is refused then, the two attempts together come to what one attempt without refusals would have come to
(`Rule.normalize_retry`). The second attempt finds what the first one settled, and goes on from there.
-/

namespace Rulebook

open Log (Event)

namespace Pass

/-! ### Two passes in one -/

/-- Which instances a complete pass leaves depends on the drivers of the slots and on what the cache comes to. -/
theorem slots_complete_congr {slots slots' : List Instance} {c c' : Cache}
    (drivers : slots.map Instance.driver = slots'.map Instance.driver)
    (entries : (complete slots c).cache.entries = (complete slots' c').cache.entries) :
    (complete slots c).slots = (complete slots' c').slots := by
  have found : (complete slots c).cache.find? = (complete slots' c').cache.find? := by
    funext d
    rw [Cache.find?, Cache.find?, entries]
  apply List.map_injective_iff.2 (Option.some_injective Instance)
  calc (complete slots c).slots.map some
    _ = (slots.map Instance.driver).map (complete slots c).cache.find? := by
      rw [Rule.slots_complete_eq_find?, List.map_map]
      rfl
    _ = (slots'.map Instance.driver).map (complete slots' c').cache.find? := by rw [drivers, found]
    _ = (complete slots' c').slots.map some := by
      rw [Rule.slots_complete_eq_find?, List.map_map]
      rfl

variable (before : List Instance) (s : Instance) (after : List Instance) (c : Cache)

/-- What a cache took before a pass stopped and takes when it is made again is what it would have taken at once. -/
theorem entries_complete_stopped :
    (complete (stopped before s after c).slots (stopped before s after c).cache).cache.entries =
      (complete (before ++ s :: after) c).cache.entries := by
  have settled : (complete before c).slots ⊆ (stopped before s after c).cache.entries := slots_complete_subset before c
  rw [entries_complete, entries_complete, Cache.addAll_append]
  show ((stopped before s after c).cache.addAll ((complete before c).slots ++ s :: after)).entries = _
  rw [Cache.addAll_append, Cache.addAll_of_subset settled]
  show ((((c.addAll before).count _ _).count 0 2).addAll (s :: after)).entries = _
  rw [Cache.addAll_count, Cache.addAll_count, Cache.entries_count, Cache.entries_count]

theorem slots_complete_stopped :
    (complete (stopped before s after c).slots (stopped before s after c).cache).slots =
      (complete (before ++ s :: after) c).slots :=
  slots_complete_congr (map_driver_stopped before s after c) (entries_complete_stopped before s after c)

theorem missing_complete_stopped :
    c.missing (before ++ s :: after) =
      c.missing before ++ (stopped before s after c).cache.missing (stopped before s after c).slots := by
  have whole := entries_complete_stopped before s after c
  rw [entries_complete, entries_complete, Cache.entries_addAll, Cache.entries_addAll] at whole
  have first : (stopped before s after c).cache.entries = c.entries ++ c.missing before := Cache.entries_addAll before
  rw [first, List.append_assoc] at whole
  exact (List.append_cancel_left whole).symm

end Pass

namespace Rule

variable {refuses : Policy} {r : Rule} {c : Cache}

theorem exists_stopped_of_error (failed : (r.normalize refuses c).error ≠ none) :
    ∃ before s after, r.slots = before ++ s :: after ∧ Pass.run refuses r.slots c = Pass.stopped before s after c := by
  rcases Pass.run_cases refuses r.slots c with ⟨_, all⟩ | ⟨k, s, at_k, _, stops⟩
  · exact absurd (by rw [error_normalize, all]; rfl) failed
  · obtain ⟨hk, rfl⟩ := List.getElem?_eq_some_iff.1 at_k
    refine ⟨r.slots.take k, r.slots[k], r.slots.drop (k + 1), ?_, stops⟩
    rw [← List.drop_eq_getElem_cons hk, List.take_append_drop]

/-- A rule that a cache does not stop is normalised as if the cache refused nothing. A rule that is stopped, and then
normalised again through the cache that was left while nothing is refused, is normalised as it would have been at once
without refusals: the same instances are in its slots, the cache holds the same entries in the same order, and each
driver that was missing is put in by one of the two attempts alone. -/
theorem normalize_retry (refuses : Policy) (r : Rule) (c : Cache) :
    let n := r.normalize refuses c
    let whole := r.normalize .acceptAll c
    (n.error = none → n = whole) ∧
      (n.error ≠ none →
        let again := n.rule.normalize .acceptAll n.cache
        again.error = none ∧ again.rule = whole.rule ∧ again.cache.entries = whole.cache.entries ∧
          ∃ first second : List Instance,
            n.cache.entries = c.entries ++ first ∧
            again.cache.entries = n.cache.entries ++ second ∧
            whole.cache.entries = c.entries ++ (first ++ second) ∧
            n.events = (first.map fun i => Event.cached i.driver) ∧
            again.events = (second.map fun i => Event.cached i.driver) ++
              [.replaced r.identifier r.slots.length second.length] ∧
            whole.events = ((first ++ second).map fun i => Event.cached i.driver) ++
              [.replaced r.identifier r.slots.length (first.length + second.length)] ∧
            ((first ++ second).map Instance.driver).Nodup) := by
  constructor
  · intro succeeded
    rw [normalize_acceptAll]
    exact normalize_of_complete (run_eq_complete_of_error succeeded)
  · intro failed
    obtain ⟨before, s, after, parts, stops⟩ := exists_stopped_of_error failed
    have slots := Pass.slots_complete_stopped before s after c
    have missing := Pass.missing_complete_stopped before s after c
    have nodup := c.nodup_map_missing (before ++ s :: after)
    have length : (Pass.stopped before s after c).slots.length = (before ++ s :: after).length := by
      rw [← List.length_map Instance.driver, Pass.map_driver_stopped, List.length_map]
    rw [normalize_of_stopped stops, normalize_acceptAll, normalize_acceptAll, parts]
    refine ⟨rfl, ?_, Pass.entries_complete_stopped before s after c,
      c.missing before, (Pass.stopped before s after c).cache.missing (Pass.stopped before s after c).slots,
      Cache.entries_addAll before, Cache.entries_addAll _, ?_, rfl, ?_, ?_, ?_⟩
    · show { r with slots := _ } = { r with slots := _ }
      rw [slots]
    · rw [← missing]
      exact Cache.entries_addAll _
    · show _ ++ [Event.replaced r.identifier (Pass.stopped before s after c).slots.length _] = _
      rw [length]
      rfl
    · rw [← List.length_append, ← missing]
      rfl
    · rw [← missing]
      exact nodup

/-- A cache with room for one more driver stops a rule at its third slot, but not a rule that needs no more room. When
the first is normalised again without limits, it gets the instances that it would have got at once. -/
theorem normalize_retry_full :
    let l : Limits := ⟨.nothing, some 2⟩
    let c : Cache := ⟨[⟨⟨"A", .string⟩, 0⟩], 5, 7, by decide⟩
    let r : Rule := ⟨none, none, [⟨⟨"B", .string⟩, 1⟩, ⟨⟨"A", .string⟩, 2⟩, ⟨⟨"C", .string⟩, 3⟩, ⟨⟨"B", .string⟩, 4⟩,
      ⟨⟨"C", .string⟩, 5⟩], .empty, .ofBounds none none⟩
    let narrow : Rule := { r with slots := r.slots.take 2 }
    let n := r.normalize l.refuses c
    let again := n.rule.normalize .acceptAll n.cache
    n.error ≠ none ∧ n.rule.slots.map Instance.tag = [1, 0, 3, 4, 5] ∧
      again.rule = (r.normalize .acceptAll c).rule ∧ again.rule.slots.map Instance.tag = [1, 0, 3, 1, 3] ∧
      (narrow.normalize l.refuses c).error = none ∧
      narrow.normalize l.refuses c = narrow.normalize .acceptAll c := by
  intro l c r narrow n again
  have failed : n.error ≠ none := by decide
  have succeeded : (narrow.normalize l.refuses c).error = none := by decide
  obtain ⟨-, rule, -⟩ := (normalize_retry l.refuses r c).2 failed
  exact ⟨failed, by decide, rule, by decide, succeeded, (normalize_retry l.refuses narrow c).1 succeeded⟩

end Rule

end Rulebook

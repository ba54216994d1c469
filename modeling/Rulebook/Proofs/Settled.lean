import Mathlib.Data.List.Nodup
import Rulebook.Cache.Call
import Rulebook.Proofs.Normalization

/-!
# Settled rules

A rule is settled in a cache if the instances in its slots are entries of the cache. A cache has one entry of each
driver, so two slots of settled rules hold the same instance exactly if their drivers are equal
(`Cache.eq_iff_driver_eq`). Normalising settles a rule unless it fails (`Rule.settled_normalize`) and leaves a settled
rule as it is (`Rule.normalize_of_settled`). Entries are never lost but by clearing (`Cache.prefix_perform`,
`Rule.prefix_normalize`), so what is settled stays settled.
-/

namespace Rulebook

open Log (Event)

namespace Cache

variable {c c' : Cache} {refuses : Policy}

/-! ### One entry of each driver -/

theorem eq_of_driver_eq {i j : Instance} (hi : i ∈ c.entries) (hj : j ∈ c.entries) (same : i.driver = j.driver) :
    i = j :=
  List.inj_on_of_nodup_map c.drivers_nodup hi hj same

theorem eq_iff_driver_eq {i j : Instance} (hi : i ∈ c.entries) (hj : j ∈ c.entries) :
    i = j ↔ i.driver = j.driver :=
  ⟨congrArg Instance.driver, eq_of_driver_eq hi hj⟩

theorem mem_of_find? {d : Driver} {i : Instance} (found : c.find? d = some i) : i ∈ c.entries :=
  List.mem_of_find?_eq_some found

theorem find?_of_mem {i : Instance} (hi : i ∈ c.entries) : c.find? i.driver = some i := by
  cases found : c.find? i.driver with
  | none =>
    have absent := find?_eq_none_iff.1 found
    exact absurd (List.mem_map_of_mem hi) absent
  | some j => rw [eq_of_driver_eq (mem_of_find? found) hi (driver_of_find? found)]

theorem find?_eq_some_iff {d : Driver} {i : Instance} : c.find? d = some i ↔ i ∈ c.entries ∧ i.driver = d := by
  constructor
  · intro found
    exact ⟨mem_of_find? found, driver_of_find? found⟩
  · rintro ⟨hi, rfl⟩
    exact find?_of_mem hi

/-- What was found of a driver is found as long as no entry is lost. -/
theorem find?_of_grown {d : Driver} {i : Instance} (grown : c.entries <+: c'.entries) (found : c.find? d = some i) :
    c'.find? d = some i := by
  rw [find?_eq_some_iff] at found ⊢
  exact ⟨grown.subset found.1, found.2⟩

theorem canonical_of_mem {i : Instance} (hi : i ∈ c.entries) : c.canonical i = i := by
  rw [canonical, find?_of_mem hi, Option.getD_some]

/-- Adding what is an entry already changes nothing. -/
theorem addAll_of_subset {is : List Instance} (held : is ⊆ c.entries) : c.addAll is = c := by
  induction is with
  | nil => rfl
  | cons i is ih =>
    rw [List.cons_subset] at held
    rw [addAll_cons, add_of_contains (contains_of_some (find?_of_mem held.1))]
    exact ih held.2

/-! ### Growing -/

theorem prefix_addAll (is : List Instance) : c.entries <+: (c.addAll is).entries := by
  rw [entries_addAll]
  exact List.prefix_append _ _

theorem mem_entries_addAll (is : List Instance) {e : Instance} (he : e ∈ (c.addAll is).entries) :
    e ∈ c.entries ∨ e ∈ is := by
  rw [entries_addAll, List.mem_append] at he
  exact he.imp_right fun new => List.mem_of_mem_filter ((sublist_distinctBy Instance.driver _).subset new)

theorem prefix_put (refuses : Policy) (i : Instance) : c.entries <+: (c.put refuses i).1.entries := by
  unfold put
  split
  · exact List.prefix_rfl
  · exact prefix_addAll [i]

/-- No call but clearing loses an entry. -/
theorem prefix_perform {call : Call} (kept : call ≠ .clear) :
    c.entries <+: (c.perform refuses call).cache.entries := by
  cases call with
  | get d =>
    show c.entries <+: (c.get d).2.entries
    rw [entries_get]
  | put i => exact prefix_put refuses i
  | clear => exact absurd rfl kept
  | contains d => exact List.prefix_rfl
  | size => exact List.prefix_rfl
  | counts => exact List.prefix_rfl

/-- An entry after a call was one before, or was put in. -/
theorem mem_entries_perform {call : Call} {e : Instance} (he : e ∈ (c.perform refuses call).cache.entries) :
    e ∈ c.entries ∨ call = .put e := by
  cases call with
  | get d =>
    change e ∈ (c.get d).2.entries at he
    rw [entries_get] at he
    exact Or.inl he
  | put i =>
    change e ∈ (c.put refuses i).1.entries at he
    unfold put at he
    split at he
    · exact Or.inl he
    · rcases mem_entries_addAll [i] he with old | new
      · exact Or.inl old
      · rw [List.mem_singleton.1 new]
        exact Or.inr rfl
  | clear => cases he
  | contains d => exact Or.inl he
  | size => exact Or.inl he
  | counts => exact Or.inl he

end Cache

namespace Pass

variable {refuses : Policy} {c : Cache}

theorem entries_complete (slots : List Instance) (c : Cache) :
    (complete slots c).cache.entries = (c.addAll slots).entries := rfl

/-- A pass over all slots leaves entries of the cache in them. -/
theorem slots_complete_subset (slots : List Instance) (c : Cache) :
    (complete slots c).slots ⊆ (complete slots c).cache.entries := by
  intro i hi
  obtain ⟨s, hs, rfl⟩ := List.mem_map.1 hi
  exact Cache.mem_of_find? (Cache.find?_addAll_of_mem hs)

theorem prefix_run (refuses : Policy) (slots : List Instance) (c : Cache) :
    c.entries <+: (run refuses slots c).cache.entries := by
  rcases run_cases refuses slots c with ⟨_, all⟩ | ⟨k, s, _, _, stops⟩
  · rw [all]
    exact Cache.prefix_addAll slots
  · rw [stops]
    exact Cache.prefix_addAll (slots.take k)

theorem mem_entries_run {slots : List Instance} {e : Instance} (he : e ∈ (run refuses slots c).cache.entries) :
    e ∈ c.entries ∨ e ∈ slots := by
  rcases run_cases refuses slots c with ⟨_, all⟩ | ⟨k, s, _, _, stops⟩
  · rw [all] at he
    exact Cache.mem_entries_addAll slots he
  · rw [stops] at he
    exact (Cache.mem_entries_addAll (slots.take k) he).imp_right List.mem_of_mem_take

/-- Slots that hold entries of the cache are left as they are, whatever the cache refuses. -/
theorem run_of_subset {slots : List Instance} (held : slots ⊆ c.entries) :
    run refuses slots c = ⟨slots, c.count slots.length 0, [], 0, none⟩ := by
  have free : ∀ k, ¬ RefusedAt refuses c slots k := by
    rintro k ⟨s, at_k, absent, _⟩
    have hs : s ∈ c.entries := held (List.mem_of_getElem? at_k)
    have before : slots.take k ⊆ c.entries := List.Subset.trans (List.take_subset k slots) held
    rw [Cache.addAll_of_subset before, Cache.find?_of_mem hs] at absent
    cases absent
  have nothing : c.missing slots = [] := by
    have same : c.entries ++ c.missing slots = c.entries ++ [] := by
      rw [← Cache.entries_addAll, Cache.addAll_of_subset held, List.append_nil]
    exact List.append_cancel_left same
  have kept : slots.map c.canonical = slots := by
    rw [List.map_congr_left fun s hs => Cache.canonical_of_mem (held hs), List.map_id']
  rw [run_eq_complete free, complete, Cache.addAll_of_subset held, nothing, kept]
  rfl

end Pass

namespace Rule

/-- The instances in the slots of a rule are entries of a cache. -/
def SettledIn (r : Rule) (c : Cache) : Prop := r.slots ⊆ c.entries

variable {refuses : Policy} {r : Rule} {c c' : Cache}

theorem SettledIn.of_grown (settled : r.SettledIn c) (grown : c.entries <+: c'.entries) : r.SettledIn c' :=
  List.Subset.trans settled grown.subset

theorem cache_normalize : (r.normalize refuses c).cache = (Pass.run refuses r.slots c).cache := by
  cases h : (Pass.run refuses r.slots c).refused <;> simp [normalize, h]

theorem prefix_normalize (refuses : Policy) (r : Rule) (c : Cache) :
    c.entries <+: (r.normalize refuses c).cache.entries := by
  rw [cache_normalize]
  exact Pass.prefix_run refuses r.slots c

theorem mem_entries_normalize {e : Instance} (he : e ∈ (r.normalize refuses c).cache.entries) :
    e ∈ c.entries ∨ e ∈ r.slots := by
  rw [cache_normalize] at he
  exact Pass.mem_entries_run he

theorem run_eq_complete_of_error (succeeded : (r.normalize refuses c).error = none) :
    Pass.run refuses r.slots c = Pass.complete r.slots c := by
  rw [error_normalize, Option.map_eq_none_iff] at succeeded
  rcases Pass.run_cases refuses r.slots c with ⟨_, all⟩ | ⟨k, s, _, _, stops⟩
  · exact all
  · rw [stops] at succeeded
    cases succeeded

/-- A rule that was normalised is settled. -/
theorem settled_normalize (succeeded : (r.normalize refuses c).error = none) :
    (r.normalize refuses c).rule.SettledIn (r.normalize refuses c).cache := by
  rw [SettledIn, rule_normalize, cache_normalize, run_eq_complete_of_error succeeded]
  exact Pass.slots_complete_subset r.slots c

/-- Normalising a settled rule finds every slot in order, and changes neither the rule nor an entry. -/
theorem normalize_of_settled (settled : r.SettledIn c) :
    r.normalize refuses c = ⟨r, c.count r.slots.length 0, [.replaced r.identifier r.slots.length 0], none⟩ := by
  rw [normalize, Pass.run_of_subset settled]
  rfl

end Rule

end Rulebook

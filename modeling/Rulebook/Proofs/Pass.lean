import Mathlib.Data.Nat.Find
import Rulebook.Proofs.Growth
import Rulebook.Rule.Normalize

/-!
# What a pass over slots comes to

A pass either replaces all slots (`Pass.complete`) or stops at the first slot whose driver the cache lacks at that
moment and refuses (`Pass.stopped`, `Pass.RefusedAt`). Which of the two it is, and where it stops, is told by the slots
and the cache at the beginning alone: `run_eq_complete` and `run_eq_stopped`.
-/

namespace Rulebook.Pass

open Log (Event)

variable {refuses : Policy} {c : Cache} {s i : Instance}

/-! ### One slot -/

theorem run_cons_of_some (held : c.find? s.driver = some i) (rest : List Instance) :
    run refuses (s :: rest) c = (run refuses rest (c.count 1 0)).behind i [] 0 := by
  rw [run, Cache.get_of_some held]

theorem run_cons_of_accepted (absent : c.find? s.driver = none) (accepted : refuses c.entries s.driver = false)
    (rest : List Instance) :
    run refuses (s :: rest) c = (run refuses rest ((c.add s).count 1 1)).behind s [.cached s.driver] 1 := by
  have still : (c.count 0 1).find? s.driver = none := absent
  have tried : (c.count 0 1).put refuses s = ((c.add s).count 0 1, [.cached s.driver]) := by
    rw [Cache.put_of_accepted still accepted, Cache.add_count]
  have held : ((c.add s).count 0 1).find? s.driver = some s := Cache.find?_add_self absent
  rw [run, Cache.get_of_none absent]
  dsimp only
  rw [tried]
  dsimp only
  rw [Cache.get_of_some held, Cache.count_count]

theorem run_cons_of_refused (absent : c.find? s.driver = none) (refused : refuses c.entries s.driver = true)
    (rest : List Instance) : run refuses (s :: rest) c = ⟨s :: rest, c.count 0 2, [], 1, some s.driver⟩ := by
  have still : (c.count 0 1).find? s.driver = none := absent
  have tried : (c.count 0 1).put refuses s = (c.count 0 1, []) := Cache.put_of_refused refused
  rw [run, Cache.get_of_none absent]
  dsimp only
  rw [tried]
  dsimp only
  rw [Cache.get_of_none still, Cache.count_count]

/-! ### A pass that replaces all slots -/

/-- The pass over slots of which none is refused: the cache takes what it lacks of them, and each slot gets what the
cache then holds of its driver. -/
def complete (slots : List Instance) (c : Cache) : Pass :=
  let gained := c.missing slots
  ⟨slots.map (c.addAll slots).canonical, (c.addAll slots).count slots.length gained.length,
    gained.map fun i => .cached i.driver, gained.length, none⟩

theorem complete_cons_of_some (held : c.find? s.driver = some i) (rest : List Instance) :
    complete (s :: rest) c = (complete rest (c.count 1 0)).behind i [] 0 := by
  have same : c.addAll (s :: rest) = c.addAll rest := by
    rw [Cache.addAll_cons, Cache.add_of_contains (Cache.contains_of_some held)]
  have head : (c.addAll rest).canonical s = i := by
    rw [Cache.canonical, Cache.find?_addAll, held, Option.some_or, Option.getD_some]
  simp only [complete, behind, same, Cache.missing_cons_of_some held, Cache.missing_count, Cache.addAll_count,
    Cache.count_count, List.map_cons, head, List.length_cons, List.nil_append, Nat.zero_add, Nat.add_comm]
  rfl

theorem complete_cons_of_none (absent : c.find? s.driver = none) (rest : List Instance) :
    complete (s :: rest) c = (complete rest ((c.add s).count 1 1)).behind s [.cached s.driver] 1 := by
  have head : ((c.add s).addAll rest).canonical s = s := by
    rw [Cache.canonical, Cache.find?_addAll, Cache.find?_add_self absent, Option.some_or, Option.getD_some]
  simp only [complete, behind, Cache.addAll_cons, Cache.missing_cons_of_none absent, Cache.missing_count,
    Cache.addAll_count, Cache.count_count, List.map_cons, head, List.length_cons, List.singleton_append, Nat.add_comm]
  rfl

/-! ### A pass that stops -/

/-- The pass that replaces the slots before a refused one, and leaves that one and all behind it. It looked the refused
driver up twice in vain, and counts it as inserted. -/
def stopped (before : List Instance) (s : Instance) (after : List Instance) (c : Cache) : Pass :=
  let p := complete before c
  { p with
    slots := p.slots ++ s :: after
    cache := p.cache.count 0 2
    inserted := p.inserted + 1
    refused := some s.driver }

theorem stopped_nil (after : List Instance) :
    stopped [] s after c = ⟨s :: after, c.count 0 2, [], 1, some s.driver⟩ := rfl

theorem stopped_cons {t : Instance} {before after : List Instance} {c' : Cache} {events : List Event} {n : Nat}
    (first : complete (t :: before) c = (complete before c').behind i events n) :
    stopped (t :: before) s after c = (stopped before s after c').behind i events n := by
  simp only [stopped, first, behind, List.cons_append, Nat.add_assoc]

/-! ### Slots that are refused -/

/-- Of the slot at a place the cache holds no driver when the slots before it were put in, and then refuses it. -/
def RefusedAt (refuses : Policy) (c : Cache) (slots : List Instance) (k : Nat) : Prop :=
  ∃ s, slots[k]? = some s ∧ (c.addAll (slots.take k)).find? s.driver = none ∧
    refuses (c.addAll (slots.take k)).entries s.driver = true

instance {slots : List Instance} {k : Nat} : Decidable (RefusedAt refuses c slots k) :=
  inferInstanceAs (Decidable (∃ s ∈ slots[k]?, (c.addAll (slots.take k)).find? s.driver = none ∧
    refuses (c.addAll (slots.take k)).entries s.driver = true))

theorem refusedAt_zero {rest : List Instance} :
    RefusedAt refuses c (s :: rest) 0 ↔ c.find? s.driver = none ∧ refuses c.entries s.driver = true := by
  simp [RefusedAt]

theorem refusedAt_succ {rest : List Instance} {k : Nat} :
    RefusedAt refuses c (s :: rest) (k + 1) ↔ RefusedAt refuses (c.add s) rest k := Iff.rfl

theorem refusedAt_count {slots : List Instance} {h m k : Nat} :
    RefusedAt refuses (c.count h m) slots k ↔ RefusedAt refuses c slots k := by
  simp only [RefusedAt, Cache.addAll_count, Cache.find?_count, Cache.entries_count]

theorem not_refusedAt_acceptAll (slots : List Instance) (k : Nat) : ¬ RefusedAt .acceptAll c slots k := by
  rintro ⟨_, _, _, refused⟩
  exact Bool.false_ne_true refused

/-- Where no slot is refused, all slots are replaced. -/
theorem run_eq_complete {slots : List Instance} (free : ∀ k, ¬ RefusedAt refuses c slots k) :
    run refuses slots c = complete slots c := by
  induction slots generalizing c with
  | nil => rfl
  | cons s rest ih =>
    cases held : c.find? s.driver with
    | some i =>
      -- a hit leaves the cache as it is, so the slots behind meet the same refusals as before
      have hc : c.add s = c := Cache.add_of_contains (Cache.contains_of_some held)
      rw [run_cons_of_some held, complete_cons_of_some held, ih]
      intro k h
      rw [refusedAt_count, ← hc] at h
      exact free (k + 1) (refusedAt_succ.2 h)
    | none =>
      have accepted : refuses c.entries s.driver = false := by
        rw [← Bool.not_eq_true]
        exact fun refused => free 0 (refusedAt_zero.2 ⟨held, refused⟩)
      rw [run_cons_of_accepted held accepted, complete_cons_of_none held, ih]
      intro k h
      exact free (k + 1) (refusedAt_succ.2 (refusedAt_count.1 h))

/-- The first slot that is refused ends the pass. -/
theorem run_eq_stopped {slots : List Instance} {k : Nat} (at_k : slots[k]? = some s)
    (refused : RefusedAt refuses c slots k) (first : ∀ j < k, ¬ RefusedAt refuses c slots j) :
    run refuses slots c = stopped (slots.take k) s (slots.drop (k + 1)) c := by
  induction k generalizing slots c with
  | zero =>
    cases slots with
    | nil => cases at_k
    | cons t rest =>
      cases at_k
      obtain ⟨absent, refused⟩ := refusedAt_zero.1 refused
      rw [run_cons_of_refused absent refused, List.take_zero, stopped_nil]
      rfl
  | succ k ih =>
    cases slots with
    | nil => cases at_k
    | cons t rest =>
      rw [refusedAt_succ] at refused
      rw [List.take_succ_cons, List.drop_succ_cons]
      cases held : c.find? t.driver with
      | some i =>
        have hc : c.add t = c := Cache.add_of_contains (Cache.contains_of_some held)
        rw [hc] at refused
        rw [run_cons_of_some held, stopped_cons (complete_cons_of_some held _)]
        rw [ih at_k (refusedAt_count.2 refused)]
        intro j hj h
        rw [refusedAt_count, ← hc] at h
        exact first (j + 1) (Nat.succ_lt_succ hj) (refusedAt_succ.2 h)
      | none =>
        have accepted : refuses c.entries t.driver = false := by
          rw [← Bool.not_eq_true]
          exact fun refused => first 0 k.succ_pos (refusedAt_zero.2 ⟨held, refused⟩)
        rw [run_cons_of_accepted held accepted, stopped_cons (complete_cons_of_none held _)]
        rw [ih at_k (refusedAt_count.2 refused)]
        intro j hj h
        exact first (j + 1) (Nat.succ_lt_succ hj) (refusedAt_succ.2 (refusedAt_count.1 h))

theorem exists_first_refusedAt {slots : List Instance} (some_slot : ∃ k, RefusedAt refuses c slots k) :
    ∃ k, RefusedAt refuses c slots k ∧ ∀ j < k, ¬ RefusedAt refuses c slots j := by
  classical
  exact ⟨Nat.find some_slot, Nat.find_spec some_slot, fun j hj => Nat.find_min some_slot hj⟩

/-- A pass replaces all slots or stops at the first that is refused. -/
theorem run_cases (refuses : Policy) (slots : List Instance) (c : Cache) :
    ((∀ k, ¬ RefusedAt refuses c slots k) ∧ run refuses slots c = complete slots c) ∨
      ∃ k s, slots[k]? = some s ∧ RefusedAt refuses c slots k ∧
        run refuses slots c = stopped (slots.take k) s (slots.drop (k + 1)) c := by
  by_cases some_slot : ∃ k, RefusedAt refuses c slots k
  · obtain ⟨k, refused, first⟩ := exists_first_refusedAt some_slot
    have ⟨s, at_k, _⟩ := refused
    exact Or.inr ⟨k, s, at_k, refused, run_eq_stopped at_k refused first⟩
  · have free := not_exists.1 some_slot
    exact Or.inl ⟨free, run_eq_complete free⟩

theorem refused_run_isSome_iff {slots : List Instance} :
    (run refuses slots c).refused.isSome = true ↔ ∃ k, RefusedAt refuses c slots k := by
  rcases run_cases refuses slots c with ⟨free, all⟩ | ⟨k, s, _, refused, stops⟩
  · rw [all]
    exact iff_of_false Bool.false_ne_true (not_exists.2 free)
  · rw [stops]
    exact iff_of_true rfl ⟨k, refused⟩

/-! ### Drivers -/

theorem map_driver_complete (slots : List Instance) (c : Cache) :
    (complete slots c).slots.map Instance.driver = slots.map Instance.driver := by
  rw [complete, List.map_map]
  exact List.map_congr_left fun s _ => Cache.driver_canonical s

theorem map_driver_stopped (before : List Instance) (s : Instance) (after : List Instance) (c : Cache) :
    (stopped before s after c).slots.map Instance.driver = (before ++ s :: after).map Instance.driver := by
  show ((complete before c).slots ++ s :: after).map _ = _
  rw [List.map_append, List.map_append, map_driver_complete]

/-- A pass puts an instance into a slot only if it is one of the slot's driver. -/
theorem map_driver_run (refuses : Policy) (slots : List Instance) (c : Cache) :
    (run refuses slots c).slots.map Instance.driver = slots.map Instance.driver := by
  rcases run_cases refuses slots c with ⟨_, all⟩ | ⟨k, s, at_k, _, stops⟩
  · rw [all, map_driver_complete]
  · obtain ⟨hk, rfl⟩ := List.getElem?_eq_some_iff.1 at_k
    rw [stops, map_driver_stopped, ← List.drop_eq_getElem_cons hk, List.take_append_drop]

end Rulebook.Pass

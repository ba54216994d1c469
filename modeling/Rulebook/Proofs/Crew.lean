import Mathlib.Algebra.GroupWithZero.Nat
import Rulebook.Proofs.Task

/-!
# Crews

What a move of a crew can do is told by `Crew.move_cases`. While no client clears the cache that a crew shares, no entry
is lost (`Crew.prefix_after`) and all tasks stay on their way (`Crew.sound_after`), whoever moves when: no task fails,
and those that have ended share the entries of the cache (`Crew.interleaved`). A task that gets enough moves ends,
whatever the others do (`Crew.hasEnded_after`).
-/

namespace Rulebook.Crew

open Log (Event)

variable {refuses : Policy} {w w' : Crew} {m : Move} {moves : List Move} {rules : List Rule}

/-! ### One move -/

/-- What a move may do. -/
inductive Moves (refuses : Policy) (w : Crew) : Move → Crew → Prop where
  | idle {k : Nat} (nobody : w.tasks[k]? = none) : Moves refuses w (.task k) w
  | worked {k : Nat} {t : Task} {d : Task.Worked} (turn : w.tasks[k]? = some t) (works : t.Works refuses w.cache d) :
      Moves refuses w (.task k) ⟨d.cache, w.tasks.set k d.task, w.events ++ d.events⟩
  | called (call : Cache.Call) :
      Moves refuses w (.client call)
        ⟨(w.cache.perform refuses call).cache, w.tasks, w.events ++ (w.cache.perform refuses call).events⟩

theorem move_cases (refuses : Policy) (w : Crew) (m : Move) : Moves refuses w m (w.move refuses m) := by
  cases m with
  | task k =>
    cases turn : w.tasks[k]? with
    | none =>
      have stays : w.move refuses (.task k) = w := by simp only [move, turn]
      rw [stays]
      exact .idle turn
    | some t =>
      simp only [move, turn]
      exact .worked turn (Task.work_cases refuses t w.cache)
  | client call => exact .called call

theorem after_cons : w.after refuses (m :: moves) = (w.move refuses m).after refuses moves := rfl

theorem Moves.prefix_entries (moved : Moves refuses w m w') (kept : m ≠ .client .clear) :
    w.cache.entries <+: w'.cache.entries := by
  cases moved with
  | idle => exact List.prefix_rfl
  | worked _ works => exact works.prefix_entries
  | called call =>
    apply Cache.prefix_perform
    rintro rfl
    exact kept rfl

/-- As long as nobody clears the cache, no entry is lost. -/
theorem prefix_after (refuses : Policy) (w : Crew) (kept : .client .clear ∉ moves) :
    w.cache.entries <+: (w.after refuses moves).cache.entries := by
  induction moves generalizing w with
  | nil => exact List.prefix_rfl
  | cons m rest ih =>
    rw [List.mem_cons, not_or] at kept
    have now := (move_cases refuses w m).prefix_entries (Ne.symm kept.1)
    exact now.trans (ih _ kept.2)

/-! ### Tasks on their way -/

/-- Each task of a crew is on its way to normalise a rule. -/
structure Sound (rules : List Rule) (w : Crew) : Prop where
  staffed : w.tasks.length = rules.length
  task : ∀ (k : Nat) (t : Task) (r : Rule), w.tasks[k]? = some t → rules[k]? = some r → t.Sound r w.cache

theorem sound_ofRules (rules : List Rule) (c : Cache) : (ofRules rules c).Sound rules := by
  refine ⟨List.length_map _, fun k t r turn rule => ?_⟩
  change (rules.map Task.ofRule)[k]? = some t at turn
  rw [List.getElem?_map, rule] at turn
  cases turn
  exact Task.sound_ofRule r c

theorem Sound.exists_task (sound : w.Sound rules) {k : Nat} {r : Rule} (rule : rules[k]? = some r) :
    ∃ t, w.tasks[k]? = some t ∧ t.Sound r w.cache := by
  have inside : k < w.tasks.length := sound.staffed ▸ (List.getElem?_eq_some_iff.1 rule).1
  exact ⟨_, List.getElem?_eq_getElem inside, sound.task k _ r (List.getElem?_eq_getElem inside) rule⟩

theorem Sound.settledIn (sound : w.Sound rules) {t : Task} (ht : t ∈ w.tasks) (ended : t.stage.hasEnded = true) :
    t.rule.SettledIn w.cache := by
  obtain ⟨k, inside, rfl⟩ := List.getElem_of_mem ht
  have rule := List.getElem?_eq_getElem (sound.staffed ▸ inside)
  exact (sound.task k _ _ (List.getElem?_eq_getElem inside) rule).settledIn ended

theorem Moves.sound (moved : Moves .acceptAll w m w') (kept : m ≠ .client .clear) (sound : w.Sound rules) :
    w'.Sound rules := by
  have grown := moved.prefix_entries kept
  cases moved with
  | idle => exact sound
  | called call => exact ⟨sound.staffed, fun k t r turn rule => (sound.task k t r turn rule).of_grown grown⟩
  | @worked place t d turn works =>
    -- the one at work is taken on by its operation, the others by what the cache has kept
    refine ⟨(List.length_set ..).trans sound.staffed, fun k u r turn' rule => ?_⟩
    change (w.tasks.set place d.task)[k]? = some u at turn'
    by_cases here : place = k
    · subst here
      rw [List.getElem?_set_self (List.getElem?_eq_some_iff.1 turn).1] at turn'
      cases turn'
      exact works.sound (sound.task place t r turn rule)
    · rw [List.getElem?_set_ne here] at turn'
      exact (sound.task k u r turn' rule).of_grown grown

/-- Where nothing is refused and nobody clears the cache, all tasks stay on their way. -/
theorem sound_after (kept : .client .clear ∉ moves) (sound : w.Sound rules) :
    (w.after .acceptAll moves).Sound rules := by
  induction moves generalizing w with
  | nil => exact sound
  | cons m rest ih =>
    rw [List.mem_cons, not_or] at kept
    exact ih kept.2 ((move_cases .acceptAll w m).sound (Ne.symm kept.1) sound)

/-! ### Work that is left -/

/-- A move brings a task nearer to its end if it is the task's own, and no other move takes it back. -/
theorem Moves.remaining_le (moved : Moves refuses w m w') {k : Nat} {t : Task} (turn : w.tasks[k]? = some t) :
    ∃ t', w'.tasks[k]? = some t' ∧ t'.remaining ≤ t.remaining - [m].count (.task k) := by
  cases moved with
  | @idle place nobody =>
    have other : place ≠ k := by
      rintro rfl
      rw [turn] at nobody
      cases nobody
    exact ⟨t, turn, by simp [other]⟩
  | called call => exact ⟨t, turn, by simp⟩
  | @worked place u d turn' works =>
    by_cases here : place = k
    · subst here
      cases Option.some.inj (turn.symm.trans turn')
      refine ⟨d.task, List.getElem?_set_self (List.getElem?_eq_some_iff.1 turn).1, ?_⟩
      simpa using works.remaining_le
    · exact ⟨t, (List.getElem?_set_ne here).trans turn, by simp [here]⟩

theorem remaining_after (refuses : Policy) {k : Nat} {t : Task} (turn : w.tasks[k]? = some t) (moves : List Move) :
    ∃ t', (w.after refuses moves).tasks[k]? = some t' ∧ t'.remaining ≤ t.remaining - moves.count (.task k) := by
  induction moves generalizing w t with
  | nil => exact ⟨t, turn, Nat.le_refl _⟩
  | cons m rest ih =>
    obtain ⟨t₁, turn₁, now⟩ := (move_cases refuses w m).remaining_le turn
    obtain ⟨t', turn', later⟩ := ih turn₁
    refine ⟨t', turn', ?_⟩
    rw [← List.singleton_append, List.count_append]
    omega

/-- A task ends with as many moves of its own as it has operations at most, whatever happens in between. -/
theorem hasEnded_after (refuses : Policy) {k : Nat} {r : Rule} (rule : rules[k]? = some r) (c : Cache)
    (enough : 4 * r.slots.length + 1 ≤ moves.count (.task k)) :
    ∃ t, ((ofRules rules c).after refuses moves).tasks[k]? = some t ∧ t.stage.hasEnded = true := by
  have start : (ofRules rules c).tasks[k]? = some (Task.ofRule r) := by
    show (rules.map Task.ofRule)[k]? = _
    rw [List.getElem?_map, rule, Option.map_some]
  obtain ⟨t, turn, left⟩ := remaining_after refuses start moves
  rw [Task.remaining_ofRule] at left
  have nothing : t.remaining = 0 := by omega
  exact ⟨t, turn, Task.hasEnded_of_remaining nothing⟩

/-! ### Entries that are gained -/

/-- How many instances the tasks of a crew have put in. -/
def inserted (w : Crew) : Nat := (w.tasks.map Task.inserted).sum

theorem inserted_ofRules (rules : List Rule) (c : Cache) : (ofRules rules c).inserted = 0 := by
  induction rules with
  | nil => rfl
  | cons r rest ih => exact (Nat.zero_add _).trans ih

theorem sum_inserted_set {tasks : List Task} {k : Nat} {t : Task} (turn : tasks[k]? = some t) (u : Task) :
    ((tasks.set k u).map Task.inserted).sum + t.inserted = (tasks.map Task.inserted).sum + u.inserted := by
  induction tasks generalizing k with
  | nil => cases turn
  | cons first rest ih =>
    cases k with
    | zero =>
      cases turn
      simp only [List.set_cons_zero, List.map_cons, List.sum_cons]
      omega
    | succ k =>
      have later := ih turn
      simp only [List.set_cons_succ, List.map_cons, List.sum_cons]
      omega

/-- By a move that is no client's put, a cache gains at most as many entries as the tasks then count more. -/
theorem Moves.size_le (moved : Moves refuses w m w') (unfed : ∀ i, m ≠ .client (.put i)) :
    w'.cache.size + w.inserted ≤ w.cache.size + w'.inserted := by
  cases moved with
  | idle => exact Nat.le_refl _
  | @worked k t d turn works =>
    have counted := sum_inserted_set turn d.task
    have gained := works.size_le
    simp only [inserted]
    omega
  | called call =>
    cases call with
    | put i => exact absurd rfl (unfed i)
    | get d =>
      show (w.cache.get d).2.entries.length + _ ≤ _
      rw [Cache.entries_get]
      exact Nat.le_refl _
    | clear => exact Nat.add_le_add_right (Nat.zero_le _) _
    | _ => exact Nat.le_refl _

theorem size_after (refuses : Policy) (w : Crew) (unfed : ∀ i, .client (.put i) ∉ moves) :
    (w.after refuses moves).cache.size + w.inserted ≤ w.cache.size + (w.after refuses moves).inserted := by
  induction moves generalizing w with
  | nil => exact Nat.le_refl _
  | cons m rest ih =>
    have now := (move_cases refuses w m).size_le fun i e => unfed i (e ▸ List.mem_cons_self)
    have later := ih (w.move refuses m) fun i hi => unfed i (List.mem_cons_of_mem _ hi)
    rw [after_cons]
    omega

/-! ### Crews at work -/

/-- Tasks that normalise rules through one cache, taking turns in any order with each other and with clients that do not
clear it. None fails, and each ends once it has had its moves. A rule whose task has ended has kept its drivers and
holds, of each, the instance that the cache finds; so all rules whose tasks have ended hold one instance of each driver.
What the cache found of a driver at any moment it finds ever after. If no client puts anything in, the cache has gained
at most as many drivers as the tasks count as inserted. -/
theorem interleaved (rules : List Rule) (c : Cache) (moves : List Move) (kept : .client .clear ∉ moves) :
    let w := (ofRules rules c).after .acceptAll moves
    (∀ k r, rules[k]? = some r → ∃ t, w.tasks[k]? = some t ∧
      (∀ e, t.stage ≠ .ended (some e)) ∧
      (4 * r.slots.length + 1 ≤ moves.count (.task k) → t.stage.hasEnded = true) ∧
      (t.stage.hasEnded = true →
        t.rule = { r with slots := t.rule.slots } ∧ t.rule.drivers = r.drivers ∧
          ∀ i ∈ t.rule.slots, w.cache.find? i.driver = some i)) ∧
      (∀ t ∈ w.tasks, t.stage.hasEnded = true → ∀ u ∈ w.tasks, u.stage.hasEnded = true →
        ∀ i ∈ t.rule.slots, ∀ j ∈ u.rule.slots, i = j ↔ i.driver = j.driver) ∧
      (∀ earlier, earlier <+: moves → ∀ d i,
        ((ofRules rules c).after .acceptAll earlier).cache.find? d = some i → w.cache.find? d = some i) ∧
      ((∀ i, .client (.put i) ∉ moves) → w.cache.size ≤ c.size + (w.tasks.map Task.inserted).sum) := by
  intro w
  have sound : w.Sound rules := sound_after kept (sound_ofRules rules c)
  refine ⟨fun k r rule => ?_, fun t ht endedT u hu endedU i hi j hj => ?_, ?_, fun unfed => ?_⟩
  · obtain ⟨t, turn, way⟩ := sound.exists_task rule
    refine ⟨t, turn, way.not_failed, fun enough => ?_, fun ended => ⟨way.rule, way.drivers, fun i hi => ?_⟩⟩
    · obtain ⟨t', turn', ended⟩ := hasEnded_after .acceptAll rule c enough
      cases Option.some.inj (turn.symm.trans turn')
      exact ended
    · exact Cache.find?_of_mem (way.settledIn ended hi)
  · exact Cache.eq_iff_driver_eq (sound.settledIn ht endedT hi) (sound.settledIn hu endedU hj)
  · rintro earlier ⟨later, rfl⟩ d i found
    have both : w = ((ofRules rules c).after .acceptAll earlier).after .acceptAll later := List.foldl_append
    have grown := prefix_after .acceptAll ((ofRules rules c).after .acceptAll earlier)
      fun clear => kept (List.mem_append_right _ clear)
    rw [both]
    exact Cache.find?_of_grown grown found
  · have gained := size_after .acceptAll (ofRules rules c) unfed
    rw [inserted_ofRules] at gained
    exact gained

/-- Two tasks both miss a driver and both put an instance of it in. The second is faster, so that both rules get its
instance. The other driver both get from the first. -/
theorem interleaved_missed_twice :
    let a : Driver := ⟨"A", .string⟩
    let b : Driver := ⟨"B", .string⟩
    let rules : List Rule := [⟨none, none, [⟨a, 1⟩, ⟨b, 2⟩], .empty, .ofBounds none none⟩,
      ⟨none, none, [⟨a, 3⟩, ⟨b, 4⟩], .empty, .ofBounds none none⟩]
    let moves : List Move := [.task 0, .task 1, .task 1, .task 0, .client (.get a)] ++
      List.replicate 7 (.task 0) ++ List.replicate 7 (.task 1)
    let w := (ofRules rules .empty).after .acceptAll moves
    .client .clear ∉ moves ∧
      w.tasks.map (fun t => t.rule.slots.map Instance.tag) = [[3, 2], [3, 2]] ∧
      w.tasks.map Task.inserted = [2, 1] ∧
      (∃ t, w.tasks[1]? = some t ∧ t.stage.hasEnded = true ∧ ∀ i ∈ t.rule.slots, w.cache.find? i.driver = some i) ∧
      (∀ t ∈ w.tasks, ∀ u ∈ w.tasks, ∀ i ∈ t.rule.slots, ∀ j ∈ u.rule.slots, i = j ↔ i.driver = j.driver) ∧
      w.cache.size ≤ 0 + (2 + 1) := by
  intro a b rules moves w
  have kept : .client .clear ∉ moves := by decide
  have unfed : ∀ i, .client (.put i) ∉ moves := by simp [moves]
  have counted : w.tasks.map Task.inserted = [2, 1] := by decide
  have all : ∀ t ∈ w.tasks, t.stage.hasEnded = true := by decide
  obtain ⟨each, shared, -, gained⟩ := interleaved rules .empty moves kept
  obtain ⟨t, turn, -, ends, holds⟩ := each 1 _ rfl
  have ended : t.stage.hasEnded = true := ends (by decide)
  refine ⟨kept, by decide, counted, ⟨t, turn, ended, (holds ended).2.2⟩, fun t ht u hu => ?_, ?_⟩
  · exact shared t ht (all t ht) u hu (all u hu)
  · have size := gained unfed
    rw [counted] at size
    exact size

end Rulebook.Crew

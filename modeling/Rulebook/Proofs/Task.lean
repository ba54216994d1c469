import Rulebook.Proofs.Settled
import Rulebook.Rule.Task

/-!
# Tasks

What an operation of a task can do is told by `Task.work_cases`. A task ends after a bounded number of its own
operations, whatever happens to the cache in between (`Task.Works.remaining_le`), and if nothing happens in between they
come to what normalising its rule does (`Task.workAlone_ofRule`). While no entry is lost and nothing is refused, it is on
its way to settle its rule (`Task.Sound`).
-/

namespace Rulebook.Task

open Log (Event)

variable {refuses : Policy} {t : Task} {c : Cache} {d : Worked}

/-! ### One operation -/

/-- What an operation may do. -/
inductive Works (refuses : Policy) (t : Task) (c : Cache) : Worked → Prop where
  | idle (ended : t.stage.hasEnded = true) : Works refuses t c ⟨t, c, []⟩
  | finished (busy : t.stage.hasEnded = false) (behind : t.rule.slots[t.place]? = none) :
      Works refuses t c
        ⟨{ t with stage := .ended none }, c, [.replaced t.rule.identifier t.rule.slots.length t.inserted]⟩
  | found {s i : Instance} (stage : t.stage = .find ∨ t.stage = .findAgain) (slot : t.rule.slots[t.place]? = some s)
      (held : c.find? s.driver = some i) : Works refuses t c ⟨{ t with stage := .assign i }, c.count 1 0, []⟩
  | missed {s : Instance} (stage : t.stage = .find) (slot : t.rule.slots[t.place]? = some s)
      (absent : c.find? s.driver = none) : Works refuses t c ⟨{ t with stage := .put }, c.count 0 1, []⟩
  | put {s : Instance} (stage : t.stage = .put) (slot : t.rule.slots[t.place]? = some s) :
      Works refuses t c
        ⟨{ t with stage := .findAgain, inserted := t.inserted + 1 }, (c.put refuses s).1, (c.put refuses s).2⟩
  | failed {s : Instance} (stage : t.stage = .findAgain) (slot : t.rule.slots[t.place]? = some s)
      (absent : c.find? s.driver = none) :
      Works refuses t c ⟨{ t with stage := .ended (some ⟨t.rule.identifier, s.driver⟩) }, c.count 0 1, []⟩
  | assigned {s i : Instance} (stage : t.stage = .assign i) (slot : t.rule.slots[t.place]? = some s) :
      Works refuses t c
        ⟨{ t with rule := { t.rule with slots := t.rule.slots.set t.place i }, place := t.place + 1, stage := .find },
          c, []⟩

theorem work_cases (refuses : Policy) (t : Task) (c : Cache) : Works refuses t c (t.work refuses c) := by
  obtain ⟨r, place, inserted, stage⟩ := t
  unfold work
  cases slot : r.slots[place]? with
  | none =>
    cases stage with
    | ended e => exact .idle rfl
    | find => exact .finished rfl slot
    | put => exact .finished rfl slot
    | findAgain => exact .finished rfl slot
    | assign i => exact .finished rfl slot
  | some s =>
    cases stage with
    | ended e => exact .idle rfl
    | put => exact .put rfl slot
    | assign i => exact .assigned rfl slot
    | find =>
      dsimp only
      cases held : c.find? s.driver with
      | some i => rw [Cache.get_of_some held]; exact .found (Or.inl rfl) slot held
      | none => rw [Cache.get_of_none held]; exact .missed rfl slot held
    | findAgain =>
      dsimp only
      cases held : c.find? s.driver with
      | some i => rw [Cache.get_of_some held]; exact .found (Or.inr rfl) slot held
      | none => rw [Cache.get_of_none held]; exact .failed rfl slot held

/-! ### Work that is left -/

/-- How many more operations a task has at most: four for each slot that is left, less those done for the first of them,
and one to end. -/
def remaining (t : Task) : Nat :=
  let slots := t.rule.slots.length - t.place
  match t.stage with
  | .find => 4 * slots + 1
  | .put => 4 * (slots - 1) + 4
  | .findAgain => 4 * (slots - 1) + 3
  | .assign _ => 4 * (slots - 1) + 2
  | .ended _ => 0

theorem remaining_ofRule (r : Rule) : (ofRule r).remaining = 4 * r.slots.length + 1 := rfl

theorem hasEnded_of_remaining (nothing : t.remaining = 0) : t.stage.hasEnded = true := by
  unfold remaining at nothing
  cases stage : t.stage with
  | ended e => rfl
  | find => simp [stage] at nothing
  | put => simp [stage] at nothing
  | findAgain => simp [stage] at nothing
  | assign i => simp [stage] at nothing

/-- Every operation of a task brings it nearer to its end. -/
theorem Works.remaining_le (works : Works refuses t c d) : d.task.remaining ≤ t.remaining - 1 := by
  have inside {s : Instance} (slot : t.rule.slots[t.place]? = some s) : t.place < t.rule.slots.length :=
    (List.getElem?_eq_some_iff.1 slot).1
  cases works with
  | idle ended =>
    obtain ⟨e, stage⟩ := Stage.hasEnded_iff.1 ended
    simp [remaining, stage]
  | finished => exact Nat.zero_le _
  | failed => exact Nat.zero_le _
  | found stage slot =>
    have := inside slot
    rcases stage with stage | stage <;> simp only [remaining, stage] <;> omega
  | missed stage slot =>
    have := inside slot
    simp only [remaining, stage]
    omega
  | put stage slot => simp [remaining, stage]
  | assigned stage slot =>
    have := inside slot
    simp only [remaining, stage, List.length_set]
    omega

/-! ### A task alone -/

/-- A task comes to something by some number of operations with nothing in between. -/
def ComesTo (refuses : Policy) (t : Task) (c : Cache) (d : Worked) : Prop := ∃ n, workAlone refuses n t c = d

theorem ComesTo.first {t' : Task} {c' : Cache} {events : List Event} {d : Worked}
    (now : t.work refuses c = ⟨t', c', events⟩) (later : ComesTo refuses t' c' d) :
    ComesTo refuses t c { d with events := events ++ d.events } := by
  obtain ⟨n, rfl⟩ := later
  refine ⟨n + 1, ?_⟩
  rw [workAlone, now]

theorem workAlone_add (refuses : Policy) (m n : Nat) (t : Task) (c : Cache) :
    workAlone refuses (m + n) t c =
      let first := workAlone refuses m t c
      let rest := workAlone refuses n first.task first.cache
      { rest with events := first.events ++ rest.events } := by
  induction m generalizing t c with
  | zero => rw [Nat.zero_add]; rfl
  | succ m ih =>
    rw [Nat.succ_add]
    simp only [workAlone, ih, List.append_assoc]

theorem workAlone_of_hasEnded (ended : t.stage.hasEnded = true) (n : Nat) :
    workAlone refuses n t c = ⟨t, c, []⟩ := by
  obtain ⟨e, stage⟩ := Stage.hasEnded_iff.1 ended
  have idle : t.work refuses c = ⟨t, c, []⟩ := by simp only [work, stage]
  induction n with
  | zero => rfl
  | succ n ih => simp only [workAlone, idle, ih, List.nil_append]

theorem remaining_workAlone (refuses : Policy) (n : Nat) (t : Task) (c : Cache) :
    (workAlone refuses n t c).task.remaining ≤ t.remaining - n := by
  induction n generalizing t c with
  | zero => exact Nat.le_refl _
  | succ n ih =>
    have first := (work_cases refuses t c).remaining_le
    have rest := ih (t.work refuses c).task (t.work refuses c).cache
    simp only [workAlone]
    omega

/-- What a task comes to when it ends, it has come to after as many operations as it has at most. -/
theorem ComesTo.workAlone_eq (comes : ComesTo refuses t c d) (ended : d.task.stage.hasEnded = true) {n : Nat}
    (enough : t.remaining ≤ n) : workAlone refuses n t c = d := by
  obtain ⟨m, rfl⟩ := comes
  have stopped : (workAlone refuses n t c).task.stage.hasEnded = true := by
    have left := remaining_workAlone refuses n t c
    exact hasEnded_of_remaining (by omega)
  -- both have ended, so neither does anything in the operations that the other is ahead
  have later := workAlone_add refuses m n t c
  have sooner := workAlone_add refuses n m t c
  simp only [workAlone_of_hasEnded ended, List.append_nil] at later
  simp only [workAlone_of_hasEnded stopped, List.append_nil] at sooner
  rw [Nat.add_comm] at later
  exact sooner.symm.trans later

/-- A task at the first of the slots that are left, behind those that are done. -/
def midway (r : Rule) (done rest : List Instance) (inserted : Nat) (stage : Stage) : Task :=
  ⟨{ r with slots := done ++ rest }, done.length, inserted, stage⟩

variable (refuses) (r : Rule) (done rest : List Instance) (n : Nat) {s i : Instance}

theorem work_midway_assign :
    (midway r done (s :: rest) n (.assign i)).work refuses c = ⟨midway r (done ++ [i]) rest n .find, c, []⟩ := by
  simp [midway, work]

theorem work_midway_missed (absent : c.find? s.driver = none) :
    (midway r done (s :: rest) n .find).work refuses c = ⟨midway r done (s :: rest) n .put, c.count 0 1, []⟩ := by
  simp [midway, work, Cache.get_of_none absent]

theorem comesTo_of_some (held : c.find? s.driver = some i)
    (later : ComesTo refuses (midway r (done ++ [i]) rest n .find) (c.count 1 0) d) :
    ComesTo refuses (midway r done (s :: rest) n .find) c d := by
  have found : (midway r done (s :: rest) n .find).work refuses c =
      ⟨midway r done (s :: rest) n (.assign i), c.count 1 0, []⟩ := by
    simp [midway, work, Cache.get_of_some held]
  exact .first found (.first (work_midway_assign refuses r done rest n) later)

theorem comesTo_of_accepted (absent : c.find? s.driver = none) (accepted : refuses c.entries s.driver = false)
    (later : ComesTo refuses (midway r (done ++ [s]) rest (n + 1) .find) ((c.add s).count 1 1) d) :
    ComesTo refuses (midway r done (s :: rest) n .find) c { d with events := .cached s.driver :: d.events } := by
  have still : (c.count 0 1).find? s.driver = none := absent
  have held : ((c.add s).count 0 1).find? s.driver = some s := Cache.find?_add_self absent
  have put : (midway r done (s :: rest) n .put).work refuses (c.count 0 1) =
      ⟨midway r done (s :: rest) (n + 1) .findAgain, (c.add s).count 0 1, [.cached s.driver]⟩ := by
    simp [midway, work, Cache.put_of_accepted still accepted, Cache.add_count]
  have found : (midway r done (s :: rest) (n + 1) .findAgain).work refuses ((c.add s).count 0 1) =
      ⟨midway r done (s :: rest) (n + 1) (.assign s), (c.add s).count 1 1, []⟩ := by
    simp [midway, work, Cache.get_of_some held, Cache.count_count]
  refine .first (work_midway_missed refuses r done rest n absent) (.first put (.first found ?_))
  exact .first (work_midway_assign refuses r done rest (n + 1)) later

theorem comesTo_of_refused (absent : c.find? s.driver = none) (refused : refuses c.entries s.driver = true) :
    ComesTo refuses (midway r done (s :: rest) n .find) c
      ⟨midway r done (s :: rest) (n + 1) (.ended (some ⟨r.identifier, s.driver⟩)), c.count 0 2, []⟩ := by
  have still : (c.count 0 1).find? s.driver = none := absent
  have put : (midway r done (s :: rest) n .put).work refuses (c.count 0 1) =
      ⟨midway r done (s :: rest) (n + 1) .findAgain, c.count 0 1, []⟩ := by
    simp [midway, work, Cache.put_of_refused (c := c.count 0 1) refused]
  have failed : (midway r done (s :: rest) (n + 1) .findAgain).work refuses (c.count 0 1) =
      ⟨midway r done (s :: rest) (n + 1) (.ended (some ⟨r.identifier, s.driver⟩)), c.count 0 2, []⟩ := by
    simp [midway, work, Cache.get_of_none still, Cache.count_count]
  exact .first (work_midway_missed refuses r done rest n absent) (.first put (.first failed ⟨0, rfl⟩))

/-- What a task has come to after a pass over the slots behind those that were done. -/
def passed (r : Rule) (done : List Instance) (n : Nat) (p : Pass) (place : Nat) : Worked :=
  let rule := { r with slots := done ++ p.slots }
  match p.refused with
  | none =>
    ⟨⟨rule, place, n + p.inserted, .ended none⟩, p.cache,
      p.events ++ [.replaced r.identifier rule.slots.length (n + p.inserted)]⟩
  | some d => ⟨⟨rule, place, n + p.inserted, .ended (some ⟨r.identifier, d⟩)⟩, p.cache, p.events⟩

theorem passed_behind (p : Pass) (place k : Nat) (events : List Event) :
    passed r done n (p.behind i events k) place =
      let later := passed r (done ++ [i]) (n + k) p place
      { later with events := events ++ later.events } := by
  unfold passed
  cases h : p.refused <;> simp [Pass.behind, h, Nat.add_assoc]

/-- The operations of a task make the pass that `Pass.run` makes. -/
theorem comesTo_passed :
    ∃ place, ComesTo refuses (midway r done rest n .find) c (passed r done n (Pass.run refuses rest c) place) := by
  induction rest generalizing done n c with
  | nil =>
    refine ⟨done.length, 1, ?_⟩
    simp [workAlone, work, midway, passed, Pass.run]
  | cons s rest ih =>
    cases held : c.find? s.driver with
    | some i =>
      obtain ⟨place, later⟩ := ih (done ++ [i]) n (c := c.count 1 0)
      rw [Pass.run_cons_of_some held]
      refine ⟨place, ?_⟩
      rw [passed_behind]
      exact comesTo_of_some refuses r done rest n held later
    | none =>
      cases answer : refuses c.entries s.driver with
      | true =>
        rw [Pass.run_cons_of_refused held answer]
        exact ⟨done.length, comesTo_of_refused refuses r done rest n held answer⟩
      | false =>
        obtain ⟨place, later⟩ := ih (done ++ [s]) (n + 1) (c := (c.add s).count 1 1)
        rw [Pass.run_cons_of_accepted held answer]
        refine ⟨place, ?_⟩
        rw [passed_behind]
        exact comesTo_of_accepted refuses r done rest n held answer later

/-- The operations of a task, with nothing in between, normalise its rule: the rule, the cache, what was noted and the
error are those of `Rule.normalize`. -/
theorem workAlone_ofRule (refuses : Policy) (r : Rule) (c : Cache) :
    let d := workAlone refuses (4 * r.slots.length + 1) (ofRule r) c
    let n := r.normalize refuses c
    d.task.rule = n.rule ∧ d.cache = n.cache ∧ d.events = n.events ∧ d.task.stage = .ended n.error := by
  obtain ⟨place, comes⟩ := comesTo_passed (c := c) refuses r [] r.slots 0
  have ended : (passed r [] 0 (Pass.run refuses r.slots c) place).task.stage.hasEnded = true := by
    unfold passed
    cases (Pass.run refuses r.slots c).refused <;> rfl
  have alone : workAlone refuses (4 * r.slots.length + 1) (ofRule r) c = _ := comes.workAlone_eq ended (Nat.le_refl _)
  rw [alone, passed, Rule.normalize]
  cases (Pass.run refuses r.slots c).refused <;> simp

/-! ### Entries that are gained -/

theorem Works.prefix_entries (works : Works refuses t c d) : c.entries <+: d.cache.entries := by
  cases works with
  | put => exact Cache.prefix_put refuses _
  | _ => exact List.prefix_rfl

/-- By an operation a cache gains at most as many entries as the task then counts more as inserted. -/
theorem Works.size_le (works : Works refuses t c d) : d.cache.size + t.inserted ≤ c.size + d.task.inserted := by
  cases works with
  | @put s =>
    have gained := Cache.size_put_le (c := c) refuses s
    dsimp only
    omega
  | _ => exact Nat.le_refl _

/-! ### Tasks on their way -/

/-- What a task relies on at the slot where it is: that what it found, or is about to find, is an entry of the slot's
driver. -/
def Relies (t : Task) (c : Cache) : Prop :=
  match t.stage with
  | .find => True
  | .put => True
  | .findAgain => ∀ s, t.rule.slots[t.place]? = some s → c.contains s.driver = true
  | .assign i => i ∈ c.entries ∧ ∀ s, t.rule.slots[t.place]? = some s → i.driver = s.driver
  | .ended error => error = none ∧ t.rule.slots[t.place]? = none

/-- A task is on its way to normalise a rule through a cache: the slots behind it hold entries of the cache, and nothing
of the rule has changed but instances. -/
structure Sound (t : Task) (r : Rule) (c : Cache) : Prop where
  rule : t.rule = { r with slots := t.rule.slots }
  drivers : t.rule.drivers = r.drivers
  settled : t.rule.slots.take t.place ⊆ c.entries
  relies : t.Relies c

theorem sound_ofRule (r : Rule) (c : Cache) : (ofRule r).Sound r c :=
  ⟨rfl, rfl, List.nil_subset _, trivial⟩

theorem Relies.of_grown {c' : Cache} (relies : t.Relies c) (grown : c.entries <+: c'.entries) : t.Relies c' := by
  unfold Relies at relies ⊢
  cases stage : t.stage with
  | find => trivial
  | put => trivial
  | findAgain =>
    rw [stage] at relies
    intro s slot
    obtain ⟨i, found⟩ := Option.isSome_iff_exists.1 (relies s slot)
    exact Cache.contains_of_some (Cache.find?_of_grown grown found)
  | assign i =>
    rw [stage] at relies
    exact ⟨grown.subset relies.1, relies.2⟩
  | ended error =>
    rw [stage] at relies
    exact relies

/-- A task stays on its way while the cache loses no entry. -/
theorem Sound.of_grown {r : Rule} {c' : Cache} (sound : t.Sound r c) (grown : c.entries <+: c'.entries) :
    t.Sound r c' :=
  { sound with
    settled := List.Subset.trans sound.settled grown.subset
    relies := sound.relies.of_grown grown }

/-- A slot that gets an entry of its driver counts to those that are behind. -/
theorem sound_assign {r : Rule} {s i : Instance} (sound : t.Sound r c) (slot : t.rule.slots[t.place]? = some s)
    (entry : i ∈ c.entries) (same : i.driver = s.driver) :
    let rule := { t.rule with slots := t.rule.slots.set t.place i }
    Sound { t with rule, place := t.place + 1, stage := .find } r c := by
  obtain ⟨inside, rfl⟩ := List.getElem?_eq_some_iff.1 slot
  refine ⟨?_, ?_, ?_, trivial⟩
  · show { t.rule with slots := t.rule.slots.set t.place i } = { r with slots := _ }
    rw [sound.rule]
  · rw [← sound.drivers]
    show (t.rule.slots.set t.place i).map Instance.driver = t.rule.slots.map Instance.driver
    rw [List.map_set, same, ← List.getElem_map Instance.driver, List.set_getElem_self]
    rwa [List.length_map]
  · show (t.rule.slots.set t.place i).take (t.place + 1) ⊆ c.entries
    rw [List.take_add_one, List.take_set_of_le (Nat.le_refl _), List.getElem?_set_self inside]
    intro e he
    rcases List.mem_append.1 he with behind | here
    · exact sound.settled behind
    · rw [Option.toList_some, List.mem_singleton] at here
      rw [here]
      exact entry

/-- An operation keeps a task on its way if the cache refuses nothing. What it put in, or another client before it, is
found again. -/
theorem Works.sound {r : Rule} (works : Works .acceptAll t c d) (sound : t.Sound r c) : d.task.Sound r d.cache := by
  have relies := sound.relies
  unfold Relies at relies
  cases works with
  | idle => exact sound
  | finished busy behind => exact { sound with relies := ⟨rfl, behind⟩ }
  | @found s i stage slot held =>
    refine { sound with relies := ⟨Cache.mem_of_find? held, fun s' slot' => ?_⟩ }
    cases Option.some.inj (slot.symm.trans slot')
    exact Cache.driver_of_find? held
  | missed stage slot => exact { sound with relies := trivial }
  | @put s stage slot =>
    have grown := sound.of_grown (Cache.prefix_put (c := c) .acceptAll s)
    refine { grown with relies := fun s' slot' => ?_ }
    cases Option.some.inj (slot.symm.trans slot')
    show (c.put .acceptAll s).1.contains s.driver = true
    rw [Cache.put_acceptAll, Cache.contains_add]
    simp
  | @failed s stage slot absent =>
    -- the driver was put in before and is held since, whoever put it in
    rw [stage] at relies
    have held := relies s slot
    rw [Cache.contains_eq_false_iff.2 absent] at held
    cases held
  | @assigned s i stage slot =>
    rw [stage] at relies
    exact sound_assign sound slot relies.1 (relies.2 s slot)

/-- A task on its way does not end before all slots hold entries of the cache. -/
theorem Sound.settledIn {r : Rule} (sound : t.Sound r c) (ended : t.stage.hasEnded = true) : t.rule.SettledIn c := by
  obtain ⟨e, stage⟩ := Stage.hasEnded_iff.1 ended
  have relies := sound.relies
  unfold Relies at relies
  rw [stage] at relies
  have settled := sound.settled
  rw [List.take_of_length_le (List.getElem?_eq_none_iff.1 relies.2)] at settled
  exact settled

theorem Sound.not_failed {r : Rule} (sound : t.Sound r c) (e : RefusedDriver) : t.stage ≠ .ended (some e) := by
  intro stage
  have relies := sound.relies
  unfold Relies at relies
  rw [stage] at relies
  cases relies.1

end Rulebook.Task

import Rulebook.Session.Use

/-!
# What a step does

All that a step of a session can do to its rules and caches (`World.effect`): nothing, add a rule or a cache, call a
cache, or normalise a rule through a cache. What is proved of whole sessions is proved of these cases first.
-/

namespace Rulebook.Session.World

variable {α : Type} {P : Turn → Prop} {w : World} {s : Step}

/-! ### The ways a step goes on -/

theorem finding_elim {r : Registry α} {name : String} {next : Nat → α → Turn}
    (unknown : r.find? name = none → P (w.fails (.spec (.unknownName name))))
    (found : ∀ place x, r.find? name = some (place, x) → P (next place x)) : P (w.finding r name next) := by
  unfold finding
  cases h : r.find? name with
  | none => exact unknown h
  | some p => exact found p.1 p.2 h

theorem building_elim {b : Build α} {next : α → World → Turn}
    (wrong : ∀ e tag, b.runFrom w.nextTag = (.error e, tag) → P ({ w with nextTag := tag }.fails (.spec e)))
    (built : ∀ x tag, b.runFrom w.nextTag = (.ok x, tag) → P (next x { w with nextTag := tag })) :
    P (w.building b next) := by
  unfold building
  rcases h : b.runFrom w.nextTag with ⟨x | x, tag⟩
  · exact wrong x tag h
  · exact built x tag h

theorem typing_elim {value type : String} {next : Driver → Turn}
    (unknown : ∀ e, DriverType.ofName type = .error e → P (w.fails (.spec (.driverType e))))
    (known : ∀ t, DriverType.ofName type = .ok t → P (next ⟨value, t⟩)) : P (w.typing value type next) := by
  unfold typing
  cases h : DriverType.ofName type with
  | error e => exact unknown e h
  | ok t => exact known t h

/-! ### Effects -/

/-- What a step may do to the rules and caches of a session. -/
inductive Effect (w : World) (s : Step) (t : Turn) : Prop where
  | idle (unused : w.use? s = none) (rules : t.world.rules = w.rules) (stores : t.world.stores = w.stores)
      (events : t.events = [])
  | madeRule (name : String) (spec : RuleSpec) (step : s = .makeRule name spec) (r : Rule)
      (rules : t.world.rules = w.rules.add name r) (stores : t.world.stores = w.stores) (events : t.events = [])
  | madeCache (name : String) (limits : Limits) (step : s = .makeCache name limits) (rules : t.world.rules = w.rules)
      (stores : t.world.stores = w.stores.add name ⟨.empty, limits⟩) (events : t.events = [])
  | called (place : Nat) (store : Store) (call : Cache.Call) (use : w.use? s = some (place, .call call))
      (item : w.stores.items[place]? = some store) (rules : t.world.rules = w.rules)
      (stores : t.world.stores =
        w.stores.replace place { store with cache := (store.cache.perform store.limits.refuses call).cache })
      (events : t.events = (store.cache.perform store.limits.refuses call).events)
  | normalized (name cache : String) (step : s = .normalize name cache) (rulePlace : Nat) (r : Rule) (place : Nat)
      (store : Store) (use : w.use? s = some (place, .normalize rulePlace))
      (named : w.rules.find? name = some (rulePlace, r)) (held : w.stores.find? cache = some (place, store))
      (turn : t = w.normalizing rulePlace r place store)

theorem effect_comparing (unused : w.use? s = none) (rule : Rule) (other : Other) :
    Effect w s (w.comparing rule other) := by
  unfold comparing
  cases other with
  | rule name => exact finding_elim (fun _ => .idle unused rfl rfl rfl) fun _ _ _ => .idle unused rfl rfl rfl
  | nothing => exact .idle unused rfl rfl rfl
  | text text => exact .idle unused rfl rfl rfl
  | identifier text =>
    dsimp only
    cases Uuid.parse text <;> exact .idle unused rfl rfl rfl

/-- A step has one of the effects, and the use that it makes of a cache tells which. -/
theorem effect (w : World) (s : Step) : Effect w s (w.turn s) := by
  cases s with
  | makeCache name limits => exact .madeCache name limits rfl rfl rfl rfl
  | makeDriver name spec =>
    rw [turn]
    exact building_elim (fun _ _ _ => .idle rfl rfl rfl rfl) fun _ _ _ => .idle rfl rfl rfl rfl
  | makeSource name drivers outputs =>
    rw [turn]
    exact building_elim (fun _ _ _ => .idle rfl rfl rfl rfl) fun _ _ _ => .idle rfl rfl rfl rfl
  | mutateSource name clear drivers outputs =>
    rw [turn]
    refine finding_elim (fun _ => .idle rfl rfl rfl rfl) fun _ _ _ => ?_
    exact building_elim (fun _ _ _ => .idle rfl rfl rfl rfl) fun _ _ _ => .idle rfl rfl rfl rfl
  | makeRule name spec =>
    rw [turn]
    exact building_elim (fun _ _ _ => .idle rfl rfl rfl rfl) fun r _ _ => .madeRule name spec rfl r rfl rfl rfl
  | get cache value type =>
    rw [turn]
    refine finding_elim (fun unknown => .idle (by simp [use?, unknown]) rfl rfl rfl) fun place store held => ?_
    refine typing_elim (fun e wrong => .idle ?_ rfl rfl rfl) fun t known => ?_
    · simp [use?, held, wrong, Except.toOption]
    · refine .called place store (.get ⟨value, t⟩) ?_ (Registry.item_of_find? held) rfl rfl rfl
      simp [use?, held, known, Except.toOption]
  | put cache spec =>
    rw [turn]
    refine finding_elim (fun unknown => .idle (by simp [use?, unknown]) rfl rfl rfl) fun place store held => ?_
    refine building_elim (fun e tag wrong => .idle ?_ rfl rfl rfl) fun i tag built => ?_
    · simp [use?, held, wrong, Except.toOption]
    · refine .called place store (.put i) ?_ (Registry.item_of_find? held) rfl rfl rfl
      simp [use?, held, built, Except.toOption]
  | contains cache value type =>
    rw [turn]
    refine finding_elim (fun unknown => .idle (by simp [use?, unknown]) rfl rfl rfl) fun place store held => ?_
    refine typing_elim (fun e wrong => .idle ?_ rfl rfl rfl) fun t known => ?_
    · simp [use?, held, wrong, Except.toOption]
    · have item := Registry.item_of_find? held
      refine .called place store (.contains ⟨value, t⟩) ?_ item rfl (Registry.replace_of_item item).symm rfl
      simp [use?, held, known, Except.toOption]
  | clear cache =>
    rw [turn]
    refine finding_elim (fun unknown => .idle (by simp [use?, unknown]) rfl rfl rfl) fun place store held => ?_
    refine .called place store .clear ?_ (Registry.item_of_find? held) rfl rfl rfl
    simp [use?, held]
  | count cache =>
    rw [turn]
    refine finding_elim (fun unknown => .idle (by simp [use?, unknown]) rfl rfl rfl) fun place store held => ?_
    have item := Registry.item_of_find? held
    refine .called place store .counts ?_ item rfl (Registry.replace_of_item item).symm rfl
    simp [use?, held]
  | normalize rule cache =>
    rw [turn]
    refine finding_elim (fun unknown => .idle (by simp [use?, unknown]) rfl rfl rfl) fun rulePlace r named => ?_
    refine finding_elim (fun unknown => .idle (by simp [use?, unknown]) rfl rfl rfl) fun place store held => ?_
    refine .normalized rule cache rfl rulePlace r place store ?_ named held rfl
    simp [use?, named, held]
  | describe rule => rw [turn]; exact finding_elim (fun _ => .idle rfl rfl rfl rfl) fun _ _ _ => .idle rfl rfl rfl rfl
  | tags rule => rw [turn]; exact finding_elim (fun _ => .idle rfl rfl rfl rfl) fun _ _ _ => .idle rfl rfl rfl rfl
  | weight rule => rw [turn]; exact finding_elim (fun _ => .idle rfl rfl rfl rfl) fun _ _ _ => .idle rfl rfl rfl rfl
  | outputs rule => rw [turn]; exact finding_elim (fun _ => .idle rfl rfl rfl rfl) fun _ _ _ => .idle rfl rfl rfl rfl
  | isActive rule time =>
    rw [turn]
    refine finding_elim (fun _ => .idle rfl rfl rfl rfl) fun _ r _ => ?_
    cases TimeSpec.buildOptional time with
    | error e => exact .idle rfl rfl rfl rfl
    | ok t =>
      dsimp only
      cases r.isActiveAt t <;> exact .idle rfl rfl rfl rfl
  | duplication rule other =>
    cases other with
    | none => rw [turn]; exact finding_elim (fun _ => .idle rfl rfl rfl rfl) fun _ _ _ => .idle rfl rfl rfl rfl
    | some other =>
      rw [turn]
      refine finding_elim (fun _ => .idle rfl rfl rfl rfl) fun _ _ _ => ?_
      exact finding_elim (fun _ => .idle rfl rfl rfl rfl) fun _ _ _ => .idle rfl rfl rfl rfl
  | same rule other =>
    rw [turn]
    exact finding_elim (fun _ => .idle rfl rfl rfl rfl) fun _ r _ => effect_comparing rfl r other
  | distinct names =>
    rw [turn]
    cases w.rulesNamed names <;> exact .idle rfl rfl rfl rfl
  | assign rule target => exact .idle rfl rfl rfl rfl

end Rulebook.Session.World

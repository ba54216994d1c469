import Rulebook.Log.Host

/-!
# Which events are let through

A logger that is used under a configuration lets an event through exactly if its level is not below the threshold of
the process (`Logger.isSome_log_iff`), whenever it was made and first used. The first configuration of a process that
succeeds sets this threshold, and nothing changes it afterwards (`Host.threshold_after`). So later configurations do not
get the threshold they ask for, but where theirs lets the same severities through as the first one
(`Host.emits_after`).
-/

namespace Rulebook.Log

open Host (Step)

/-! ### Thresholds -/

/-- Two thresholds let the same severities through exactly if they are equal or neither is above the lowest one. -/
theorem max_eq_max_iff {m n : Nat} {name other : String} (hm : threshold? name = some m)
    (hn : threshold? other = some n) :
    max m Severity.debug.level = max n Severity.debug.level ↔
      ∀ method : Method, m ≤ method.severity.level ↔ n ≤ method.severity.level := by
  have named : ∀ {text : String} {k : Nat}, threshold? text = some k → k ∈ thresholds.map Prod.snd := by
    intro text k h
    obtain ⟨before, behind, parts, -⟩ := List.lookup_eq_some_iff.1 h
    rw [parts]
    simp
  have hm := named hm
  have hn := named hn
  constructor
  · intro same method
    have lowest : Severity.debug.level ≤ method.severity.level := by cases method <;> decide
    omega
  · intro same
    have debug := same .debug
    have info := same .info
    have warning := same .warning
    have error := same .error
    have critical := same .critical
    simp only [thresholds, List.map_cons, List.map_nil, List.mem_cons, List.not_mem_nil, or_false] at hm hn
    simp only [Method.severity, Severity.level] at debug info warning error critical ⊢
    omega

/-! ### Loggers -/

namespace Logger

variable {s : Setup}

/-- A logger that is used under a configuration keeps a renderer from then on. -/
theorem exists_kept_use (configured : s.isConfigured = true) (l : Logger) : ∃ kept, (l.use s).kept = some kept := by
  obtain ⟨renderer, inForce⟩ := Option.isSome_iff_exists.1 configured
  show ∃ kept, l.kept.or s.renderer = some kept
  cases l.kept with
  | none => exact ⟨renderer, inForce⟩
  | some first => exact ⟨first, rfl⟩

theorem log_of_kept {kept : Renderer} {l : Logger} (used : (l.use s).kept = some kept) (severity : Severity)
    (event : Json) (fields : List (String × Json)) (clock : Json) :
    (l.log s severity event fields clock).2 =
      if severity.level < s.threshold then none
      else some ⟨kept, .ofEvent fields event l.name severity clock⟩ := by
  simp only [log, used]
  split <;> rfl

theorem isSome_log_iff (configured : s.isConfigured = true) (l : Logger) (severity : Severity) (event : Json)
    (fields : List (String × Json)) (clock : Json) :
    (l.log s severity event fields clock).2.isSome = true ↔ s.threshold ≤ severity.level := by
  obtain ⟨kept, used⟩ := exists_kept_use configured l
  rw [log_of_kept used]
  by_cases below : severity.level < s.threshold
  · rw [if_pos below]
    exact iff_of_false Bool.false_ne_true (Nat.not_le_of_lt below)
  · rw [if_neg below]
    exact iff_of_true rfl (Nat.le_of_not_lt below)

/-- A call whose fields have free names does not fail. -/
theorem call_of_free {fields : List (String × Json)} (free : ∀ p ∈ fields, p.1 ∉ reservedNames) (l : Logger)
    (s : Setup) (method : Method) (event clock : Json) :
    (l.call s method event fields clock).2 = .ok (l.log s method.severity event fields clock).2 := by
  have absent : ∀ name ∈ reservedNames, name ∉ fields.map Prod.fst := by
    intro name reserved given
    obtain ⟨p, hp, rfl⟩ := List.mem_map.1 given
    exact free p hp reserved
  have noOwn : (fields.map Prod.fst).find? (CallError.ownNames.contains ·) = none := by
    rw [List.find?_eq_none]
    intro name given own
    exact absent name (by simpa [reservedNames] using Or.inl own) given
  have noMethod : (fields.map Prod.fst).contains CallError.methodName = false := by
    rw [← Bool.not_eq_true, List.contains_iff_mem]
    exact absent _ (by decide)
  have noRecord : (Fields.ofPairs fields).get? CallError.recordName = none :=
    Fields.get?_setAll_of_not_mem (absent _ (by decide)) .empty
  have named : CallError.ofNames? method (fields.map Prod.fst) = none := by
    rw [CallError.ofNames?, noOwn]
    exact if_neg (by rw [noMethod]; exact Bool.false_ne_true)
  have recorded : CallError.ofRecord? (Fields.ofPairs fields) = none := by
    rw [CallError.ofRecord?, noRecord]
  rw [call, named, recorded]
  rcases l.log s method.severity event fields clock with ⟨used, _ | emission⟩ <;> rfl

end Logger

/-! ### Steps of a host -/

namespace Host

variable {h : Host} {s : Step} {steps : List Step} {level : Nat}

theorem setup_note (h : Host) (clock : Json) (e : Event) : (h.note clock e).1.setup = h.setup := by
  cases e <;> rfl

theorem setup_noteAll (h : Host) (clock : Json) (events : List Event) :
    (h.noteAll clock events).1.setup = h.setup := by
  induction events generalizing h with
  | nil => rfl
  | cons e rest ih =>
    show ((h.note clock e).1.noteAll clock rest).1.setup = h.setup
    rw [ih, setup_note]

/-- The threshold that a step asks for, if it is a configuration that succeeds. -/
def Step.threshold? : Step → Option Nat
  | .configure _ name _ => Log.threshold? name
  | _ => none

theorem exists_name_of_mem (asked : level ∈ steps.filterMap Step.threshold?) :
    ∃ name, Log.threshold? name = some level := by
  obtain ⟨s, -, asked⟩ := List.mem_filterMap.1 asked
  cases s with
  | configure service name asJson => exact ⟨name, asked⟩
  | _ => cases asked

/-- No step but a configuration that succeeds changes how a process logs. -/
theorem setup_turn_of_none (asked : s.threshold? = none) : (h.turn s).host.setup = h.setup := by
  cases s with
  | configure service name asJson =>
    have unknown : Log.threshold? name = none := asked
    simp only [turn, Setup.configure, unknown]
  | state => rfl
  | logger name handle => rfl
  | log speaker method event fields clock =>
    cases speaker with
    | named name =>
      rw [turn]
      cases ((Logger.ofName name).call h.setup method event fields clock).2 <;> rfl
    | handle handle =>
      rw [turn]
      cases h.handles.get? handle with
      | none => rfl
      | some l =>
        dsimp only
        cases (l.call h.setup method event fields clock).2 <;> rfl
  | normalize spec clock =>
    rw [turn]
    rcases (spec.build (fun _ => none) (fun _ => none)).runFrom h.nextTag with ⟨e | rule, tag⟩
    · rfl
    · exact setup_noteAll _ clock _
  | clear clock => exact setup_noteAll { h with cache := h.cache.clear.1 } clock h.cache.clear.2

/-- A configuration that succeeds sets the threshold only of a process that was not configured. -/
theorem setup_turn_of_some (asked : s.threshold? = some level) :
    (h.turn s).host.setup.isConfigured = true ∧
      (h.turn s).host.setup.threshold = if h.setup.isConfigured then h.setup.threshold else level := by
  cases s with
  | configure service name asJson =>
    have known : Log.threshold? name = some level := asked
    rw [turn, Setup.configure, known]
    exact ⟨rfl, rfl⟩
  | _ => cases asked

theorem after_cons : h.after (s :: steps) = (h.turn s).host.after steps := rfl

/-- Once a process is configured, nothing changes its threshold. -/
theorem threshold_after_of_configured (configured : h.setup.isConfigured = true) :
    (h.after steps).setup.isConfigured = true ∧ (h.after steps).setup.threshold = h.setup.threshold := by
  induction steps generalizing h with
  | nil => exact ⟨configured, rfl⟩
  | cons s rest ih =>
    rw [after_cons]
    cases asked : s.threshold? with
    | none =>
      have same := setup_turn_of_none (h := h) asked
      rw [← same] at configured ⊢
      exact ih configured
    | some level =>
      obtain ⟨still, same⟩ := setup_turn_of_some (h := h) asked
      rw [if_pos configured] at same
      rw [← same]
      exact ih still

/-- The first configuration that succeeds sets the threshold for good. -/
theorem threshold_after (fresh : h.setup.isConfigured = false)
    (first : (steps.filterMap Step.threshold?).head? = some level) :
    (h.after steps).setup.isConfigured = true ∧ (h.after steps).setup.threshold = level := by
  induction steps generalizing h with
  | nil => cases first
  | cons s rest ih =>
    rw [after_cons]
    cases asked : s.threshold? with
    | none =>
      rw [List.filterMap_cons_none asked] at first
      exact ih (by rw [setup_turn_of_none asked, fresh]) first
    | some other =>
      rw [List.filterMap_cons_some asked] at first
      cases first
      obtain ⟨configured, set⟩ := setup_turn_of_some (h := h) asked
      rw [if_neg (by rw [fresh]; exact Bool.false_ne_true)] at set
      rw [← set]
      exact threshold_after_of_configured configured

/-! ### What is let through -/

/-- After any steps of a new process, of which some configurations succeeded, a call of a logger that does not fail is
let through exactly if the level of its event is not below the threshold of the first of these. The threshold of the
last of these decides the same of every call exactly if the two thresholds are equal or neither is above the lowest
severity. -/
theorem emits_after (steps : List Step) (first last : Nat)
    (begun : (steps.filterMap Step.threshold?).head? = some first)
    (ended : (steps.filterMap Step.threshold?).getLast? = some last) :
    let setup := (initial.after steps).setup
    (∀ (l : Logger) (method : Method) (event clock : Json) (fields : List (String × Json)),
      (∀ p ∈ fields, p.1 ∉ reservedNames) →
        ∃ emission, (l.call setup method event fields clock).2 = .ok emission ∧
          (emission.isSome = true ↔ first ≤ method.severity.level)) ∧
      ((∀ (l : Logger) (method : Method) (event clock : Json) (fields : List (String × Json)),
        (∀ p ∈ fields, p.1 ∉ reservedNames) →
          ∃ emission, (l.call setup method event fields clock).2 = .ok emission ∧
            (emission.isSome = true ↔ last ≤ method.severity.level)) ↔
        max first Severity.debug.level = max last Severity.debug.level) := by
  intro setup
  obtain ⟨configured, threshold⟩ := threshold_after (h := initial) rfl begun
  have letThrough : ∀ (l : Logger) (method : Method) (event clock : Json) (fields : List (String × Json)),
      (∀ p ∈ fields, p.1 ∉ reservedNames) →
        ∃ emission, (l.call setup method event fields clock).2 = .ok emission ∧
          (emission.isSome = true ↔ first ≤ method.severity.level) := by
    intro l method event clock fields free
    refine ⟨_, Logger.call_of_free free l setup method event clock, ?_⟩
    rw [Logger.isSome_log_iff configured, threshold]
  obtain ⟨name, firstNamed⟩ := exists_name_of_mem (List.mem_of_head? begun)
  obtain ⟨other, lastNamed⟩ := exists_name_of_mem (List.mem_of_getLast? ended)
  refine ⟨letThrough, ?_⟩
  rw [max_eq_max_iff firstNamed lastNamed]
  constructor
  · intro byLast method
    obtain ⟨emission, said, byFirst⟩ := letThrough (.ofName "") method .null .null [] (by simp)
    obtain ⟨emission', said', byLast⟩ := byLast (.ofName "") method .null .null [] (by simp)
    cases said.symm.trans said'
    exact byFirst.symm.trans byLast
  · intro same l method event clock fields free
    obtain ⟨emission, said, byFirst⟩ := letThrough l method event clock fields free
    exact ⟨emission, said, byFirst.trans (same method)⟩

/-- A process that was configured for warnings, after it failed to be configured for a threshold that there is not, and
then for the lowest severity, still drops an event below a warning. -/
theorem emits_after_lowered :
    let steps : List Step := [.configure "rules" "loud" true, .configure "rules" "warning" true,
      .log (.named "a.b") .error (.str "seen") [] .null, .configure "rules" "Debug" true]
    let setup := (initial.after steps).setup
    (steps.filterMap Step.threshold?).head? = some 30 ∧ (steps.filterMap Step.threshold?).getLast? = some 10 ∧
      ∃ emission, ((Logger.ofName "a.b").call setup .info (.str "unseen") [("rate", .nat 1)] .null).2 = .ok emission ∧
        emission.isSome = false := by
  intro steps setup
  have begun : (steps.filterMap Step.threshold?).head? = some 30 := by decide
  have ended : (steps.filterMap Step.threshold?).getLast? = some 10 := by decide
  have free : ∀ p ∈ [("rate", Json.nat 1)], p.1 ∉ reservedNames := by simp; decide
  obtain ⟨letThrough, -⟩ := emits_after steps 30 10 begun ended
  obtain ⟨emission, said, byFirst⟩ := letThrough (.ofName "a.b") .info (.str "unseen") .null [("rate", .nat 1)] free
  refine ⟨begun, ended, emission, said, ?_⟩
  rw [← Bool.not_eq_true, byFirst]
  decide

/-- A process that is configured for the lowest severity and then for errors lets an event below an error through. -/
theorem emitted_below_last :
    let steps : List Step := [.configure "rules" "debug" true, .configure "rules" "error" true]
    (steps.filterMap Step.threshold?).getLast? = some 40 ∧ ¬ 40 ≤ Method.info.severity.level ∧
      ∃ emission, ((Logger.ofName "a.b").call (initial.after steps).setup .info (.str "seen") [] .null).2 =
        .ok (some emission) := by
  refine ⟨by decide, by decide, ?_⟩
  exact ⟨_, rfl⟩

end Host

end Rulebook.Log

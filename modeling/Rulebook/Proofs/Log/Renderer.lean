import Mathlib.Data.List.Induction
import Mathlib.Data.List.TakeWhile
import Rulebook.Log.Site
import Rulebook.Proofs.Log.Threshold

/-!
# How events are written

A logger that is used writes as the configuration asks that was in force when it was first used under one, and as the
last one if it never was. The moments of a site tell which configuration that is (`Moment.atFirstUse`). No step but a
use binds a logger, and no step unbinds it (`Site.Stands`), so that every event of a site is written as its moments up
to there tell (`Site.written_after`), wherever its logger belongs and whenever it was made.
-/

namespace Rulebook.Log

def Renderer.ofJson (asJson : Bool) : Renderer := if asJson then .json else .console

theorem Renderer.ofJson_eq_json_iff {asJson : Bool} : ofJson asJson = .json ↔ asJson = true := by
  cases asJson <;> simp [ofJson]

/-! ### Moments -/

namespace Moment

/-- How a configuration asks for events to be written. -/
def asJson? : Moment → Option Bool
  | .configured asJson => some asJson
  | .used .. => none

def isUseOf (place : Nat) : Moment → Bool
  | .configured _ => false
  | .used logger _ => logger == place

/-- What the last configuration asks for, if there was one. -/
def inForce (moments : List Moment) : Option Bool := (moments.filterMap asJson?).getLast?

/-- The moments from the first configuration on. -/
def sinceConfigured (moments : List Moment) : List Moment := moments.dropWhile (·.asJson?.isNone)

/-- Whether a logger was used under a configuration. -/
def isBound (place : Nat) (moments : List Moment) : Bool := (sinceConfigured moments).any (isUseOf place)

/-- A logger was not used under a configuration: there was none before any of its uses. -/
def IsUnbound (place : Nat) (moments : List Moment) : Prop :=
  ∀ earlier emission later, moments = earlier ++ .used place emission :: later → inForce earlier = none

/-- What was in force when a logger was first used under a configuration, or what is in force if it was not. -/
def atFirstUse (place : Nat) (moments : List Moment) : Option Bool :=
  inForce ((sinceConfigured moments).takeWhile (!·.isUseOf place))

variable {moments : List Moment} {m : Moment} {place : Nat} {asJson : Bool} {emission : Option Emission}

theorem inForce_configured_cons (asJson : Bool) (rest : List Moment) :
    ∃ last, inForce (.configured asJson :: rest) = some last :=
  ⟨_, List.getLast?_eq_some_getLast (by simp [asJson?])⟩

theorem inForce_concat_configured : inForce (moments ++ [.configured asJson]) = some asJson := by
  simp [inForce, asJson?]

theorem inForce_concat_used : inForce (moments ++ [.used place emission]) = inForce moments := by
  simp [inForce, asJson?]

theorem sinceConfigured_of_bare (bare : inForce moments = none) : sinceConfigured moments = [] := by
  rw [inForce, List.getLast?_eq_none_iff, List.filterMap_eq_nil_iff] at bare
  rw [sinceConfigured, List.dropWhile_eq_nil_iff]
  intro m hm
  rw [bare m hm]
  rfl

/-- From the first configuration on, the first moment is a configuration. -/
theorem exists_sinceConfigured_eq (configured : inForce moments ≠ none) :
    ∃ asJson rest, sinceConfigured moments = .configured asJson :: rest := by
  induction moments with
  | nil => exact absurd rfl configured
  | cons m rest ih =>
    cases m with
    | configured asJson => exact ⟨asJson, rest, rfl⟩
    | used logger emission => exact ih configured

theorem inForce_sinceConfigured : inForce (sinceConfigured moments) = inForce moments := by
  induction moments with
  | nil => rfl
  | cons m rest ih =>
    cases m with
    | configured asJson => rfl
    | used logger emission => exact ih

theorem sinceConfigured_append (configured : inForce moments ≠ none) (more : List Moment) :
    sinceConfigured (moments ++ more) = sinceConfigured moments ++ more := by
  obtain ⟨asJson, rest, since⟩ := exists_sinceConfigured_eq configured
  unfold sinceConfigured at since ⊢
  rw [List.dropWhile_append, since]
  rfl

theorem sinceConfigured_append_of_bare (bare : inForce moments = none) (more : List Moment) :
    sinceConfigured (moments ++ more) = sinceConfigured more := by
  have since := sinceConfigured_of_bare bare
  unfold sinceConfigured at since ⊢
  rw [List.dropWhile_append, since]
  rfl

theorem isBound_of_bare (bare : inForce moments = none) : isBound place moments = false := by
  rw [isBound, sinceConfigured_of_bare bare]
  rfl

theorem inForce_ne_none_of_isBound (bound : isBound place moments = true) : inForce moments ≠ none := by
  intro bare
  rw [isBound_of_bare bare] at bound
  cases bound

theorem isBound_append (bound : isBound place moments = true) (more : List Moment) :
    isBound place (moments ++ more) = true := by
  rw [isBound, sinceConfigured_append (inForce_ne_none_of_isBound bound), List.any_append, Bool.or_eq_true]
  exact Or.inl bound

/-- A moment that is no use of a logger does not bind it. -/
theorem isBound_concat (other : m.isUseOf place = false) : isBound place (moments ++ [m]) = isBound place moments := by
  by_cases bare : inForce moments = none
  · rw [isBound_of_bare bare, isBound, sinceConfigured_append_of_bare bare]
    cases m with
    | configured asJson => rfl
    | used logger emission => rfl
  · rw [isBound, sinceConfigured_append bare, List.any_append, isBound]
    simp [other]

theorem isBound_concat_use_of_ne {other : Nat} (apart : other ≠ place) :
    isBound other (moments ++ [.used place emission]) = isBound other moments :=
  isBound_concat (beq_eq_false_iff_ne.2 apart.symm)

/-- A use of a logger binds it if there is a configuration. -/
theorem isBound_concat_use : isBound place (moments ++ [.used place emission]) = (inForce moments).isSome := by
  by_cases bare : inForce moments = none
  · rw [isBound_of_bare (inForce_concat_used.trans bare), bare]
    rfl
  · rw [isBound, sinceConfigured_append bare, Option.isSome_iff_ne_none.2 bare]
    simp [isUseOf]

theorem isBound_eq_false_iff : isBound place moments = false ↔ IsUnbound place moments := by
  constructor
  · rintro unbound earlier emission later rfl
    rw [List.append_cons] at unbound
    have first : isBound place (earlier ++ [.used place emission]) = false := by
      rw [← Bool.not_eq_true] at unbound ⊢
      exact fun bound => unbound (isBound_append bound later)
    rwa [isBound_concat_use, Option.isSome_eq_false_iff, Option.isNone_iff_eq_none] at first
  · -- from the last moment, which binds the logger only if it is a use under a configuration
    intro bare
    induction moments using List.reverseRecOn with
    | nil => rfl
    | append_singleton moments m ih =>
      have unbound : isBound place moments = false := ih fun earlier emission later eq =>
        bare earlier emission (later ++ [m]) (by rw [eq, List.append_assoc, List.cons_append])
      cases use : m.isUseOf place with
      | false => rw [isBound_concat use, unbound]
      | true =>
        cases m with
        | configured asJson => cases use
        | used logger emission =>
          obtain rfl : logger = place := by simpa [isUseOf] using use
          rw [isBound_concat_use, bare moments emission [] rfl]
          rfl

theorem takeWhile_of_unbound (unbound : isBound place moments = false) :
    (sinceConfigured moments).takeWhile (!·.isUseOf place) = sinceConfigured moments := by
  rw [isBound, List.any_eq_false] at unbound
  rw [List.takeWhile_eq_self_iff]
  intro m hm
  simpa using unbound m hm

theorem atFirstUse_of_unbound (unbound : isBound place moments = false) :
    atFirstUse place moments = inForce moments := by
  rw [atFirstUse, takeWhile_of_unbound unbound, inForce_sinceConfigured]

theorem exists_atFirstUse (configured : inForce moments ≠ none) : ∃ first, atFirstUse place moments = some first := by
  obtain ⟨asJson, rest, since⟩ := exists_sinceConfigured_eq configured
  rw [atFirstUse, since, List.takeWhile_cons_of_pos rfl]
  exact inForce_configured_cons asJson _

/-- Once a logger is bound, nothing changes what was in force at its first use. -/
theorem atFirstUse_append (bound : isBound place moments = true) (more : List Moment) :
    atFirstUse place (moments ++ more) = atFirstUse place moments := by
  have cut : ((sinceConfigured moments).takeWhile (!·.isUseOf place)).length ≠ (sinceConfigured moments).length := by
    intro same
    have all := (List.takeWhile_prefix _).eq_of_length same
    rw [List.takeWhile_eq_self_iff] at all
    rw [isBound, List.any_eq_true] at bound
    obtain ⟨m, hm, use⟩ := bound
    simpa [use] using all m hm
  rw [atFirstUse, sinceConfigured_append (inForce_ne_none_of_isBound bound), List.takeWhile_append, if_neg cut]
  rfl

/-- A use binds a logger to what would have been in force for it anyway. -/
theorem atFirstUse_concat_use : atFirstUse place (moments ++ [.used place emission]) = atFirstUse place moments := by
  cases bound : isBound place moments with
  | true => exact atFirstUse_append bound _
  | false =>
    rw [atFirstUse_of_unbound bound]
    by_cases bare : inForce moments = none
    · rw [atFirstUse_of_unbound (isBound_of_bare (inForce_concat_used.trans bare)), inForce_concat_used]
    · have all := takeWhile_of_unbound bound
      rw [atFirstUse, sinceConfigured_append bare, List.takeWhile_append, if_pos (congrArg List.length all),
        List.takeWhile_cons_of_neg (by simp [isUseOf]), List.append_nil, inForce_sinceConfigured]

/-- Every event among some moments is written as the moments before it tell. -/
def Written (moments : List Moment) : Prop :=
  ∀ past place e future, moments = past ++ .used place (some e) :: future →
    e.renderer = ((atFirstUse place past).map Renderer.ofJson).getD .console

theorem Written.concat (written : Written moments)
    (last : ∀ place e, m = .used place (some e) →
      e.renderer = ((atFirstUse place moments).map Renderer.ofJson).getD .console) : Written (moments ++ [m]) := by
  intro past place e future eq
  rcases List.eq_nil_or_concat future with rfl | ⟨future, m', rfl⟩
  · obtain ⟨rfl, same⟩ := List.append_inj' eq rfl
    exact last place e (List.singleton_inj.1 same)
  · rw [List.concat_eq_append, ← List.cons_append, ← List.append_assoc] at eq
    exact written past place e future (List.append_inj' eq rfl).1

end Moment

/-! ### Loggers -/

namespace Logger

variable {s : Setup} {severity : Severity} {event clock : Json} {fields : List (String × Json)} {emission : Emission}

theorem fst_log (l : Logger) : (l.log s severity event fields clock).1 = l.use s := by
  unfold log
  dsimp only
  split
  · rfl
  · split <;> rfl

theorem renderer_log {l : Logger} (emitted : (l.log s severity event fields clock).2 = some emission) :
    emission.renderer = (l.use s).kept.getD .console := by
  cases used : (l.use s).kept with
  | none =>
    simp only [log, used, Option.some.injEq] at emitted
    rw [← emitted]
    rfl
  | some kept =>
    rw [log_of_kept used] at emitted
    split at emitted
    · cases emitted
    · cases emitted
      rfl

/-- A call uses its logger, and fails or emits what it logs. -/
theorem call_cases (l : Logger) (s : Setup) (method : Method) (event : Json) (fields : List (String × Json))
    (clock : Json) :
    (∃ error, l.call s method event fields clock = (l.use s, .error error)) ∨
      l.call s method event fields clock = (l.use s, .ok (l.log s method.severity event fields clock).2) := by
  have used : (l.log s method.severity event fields clock).1 = l.use s := fst_log l
  unfold call
  cases CallError.ofNames? method (fields.map Prod.fst) with
  | some error => exact Or.inl ⟨error, rfl⟩
  | none =>
    dsimp only
    rcases logged : l.log s method.severity event fields clock with ⟨l', _ | emission⟩
    · rw [logged] at used
      exact Or.inr (congrArg (·, _) used)
    · rw [logged] at used
      cases CallError.ofRecord? (Fields.ofPairs fields) with
      | none => exact Or.inr (congrArg (·, _) used)
      | some error => exact Or.inl ⟨error, congrArg (·, _) used⟩

end Logger

/-! ### Sites -/

namespace Site

open Moment (inForce isBound IsUnbound atFirstUse Written)

/-- Where a site is after some moments: how it is configured, which loggers are bound to what, and that every event so
far was written as the moments before it tell. -/
structure Stands (w : Site) (moments : List Moment) : Prop where
  inForce_eq : w.setup.renderer = (inForce moments).map Renderer.ofJson
  kept_eq : ∀ place l, w.loggers[place]? = some l →
    l.kept = if isBound place moments then (atFirstUse place moments).map Renderer.ofJson else none
  lt_of_isBound : ∀ place, isBound place moments = true → place < w.loggers.length
  written : Written moments

/-- What a logger may do when it is used: it is used by the setup, and writes as it then keeps to. -/
def IsUse (s : Setup) (say : Logger → Logger × Option Emission) : Prop :=
  ∀ l, (say l).1 = l.use s ∧ ∀ e, (say l).2 = some e → e.renderer = (l.use s).kept.getD .console

variable {w : Site} {moments : List Moment} {place : Nat} {l : Logger} {clock : Json}

theorem stands_initial : initial.Stands [] where
  inForce_eq := rfl
  kept_eq place l here := by
    rw [initial, List.getElem?_singleton] at here
    split at here
    · cases here
      rfl
    · cases here
  lt_of_isBound := nofun
  written past place e future eq := by simp at eq

namespace Stands

/-- A logger that is used next keeps to what was in force at its first use. -/
theorem kept_use (stands : w.Stands moments) (here : w.loggers[place]? = some l) :
    (l.use w.setup).kept = (atFirstUse place moments).map Renderer.ofJson := by
  show l.kept.or w.setup.renderer = _
  rw [stands.kept_eq place l here, stands.inForce_eq]
  cases bound : isBound place moments with
  | false => rw [if_neg Bool.false_ne_true, Option.none_or, Moment.atFirstUse_of_unbound bound]
  | true =>
    obtain ⟨first, eq⟩ : ∃ first, atFirstUse place moments = some first :=
      Moment.exists_atFirstUse (Moment.inForce_ne_none_of_isBound bound)
    rw [if_pos rfl, eq]
    rfl

theorem idle (stands : w.Stands moments) : w.Stands (moments ++ []) := by rwa [List.append_nil]

theorem configured {setup : Setup} {asJson : Bool} (stands : w.Stands moments)
    (set : setup.renderer = some (.ofJson asJson)) :
    Stands { w with setup } (moments ++ [.configured asJson]) where
  inForce_eq := by
    rw [Moment.inForce_concat_configured]
    exact set
  kept_eq place l here := by
    rw [Moment.isBound_concat rfl, stands.kept_eq place l here]
    split
    · next bound => rw [Moment.atFirstUse_append bound]
    · rfl
  lt_of_isBound place bound := by
    rw [Moment.isBound_concat rfl] at bound
    exact stands.lt_of_isBound place bound
  written := stands.written.concat nofun

theorem used {emission : Option Emission} (stands : w.Stands moments) (here : w.loggers[place]? = some l)
    (renders : ∀ e, emission = some e → e.renderer = (l.use w.setup).kept.getD .console) :
    Stands { w with loggers := w.loggers.set place (l.use w.setup) } (moments ++ [.used place emission]) where
  inForce_eq := by
    rw [Moment.inForce_concat_used]
    exact stands.inForce_eq
  kept_eq other l' there := by
    by_cases same : other = place
    · subst same
      have inside := (List.getElem?_eq_some_iff.1 here).1
      rw [List.getElem?_set_self inside] at there
      cases there
      rw [stands.kept_use here, Moment.isBound_concat_use, Moment.atFirstUse_concat_use]
      cases bare : inForce moments with
      | none => rw [Moment.atFirstUse_of_unbound (Moment.isBound_of_bare bare), bare]; rfl
      | some asJson => rfl
    · rw [List.getElem?_set_ne (Ne.symm same)] at there
      rw [Moment.isBound_concat_use_of_ne same, stands.kept_eq other l' there]
      split
      · next bound => rw [Moment.atFirstUse_append bound]
      · rfl
  lt_of_isBound other bound := by
    rw [List.length_set]
    by_cases same : other = place
    · subst same
      exact (List.getElem?_eq_some_iff.1 here).1
    · rw [Moment.isBound_concat_use_of_ne same] at bound
      exact stands.lt_of_isBound other bound
  written := by
    refine stands.written.concat fun place' e eq => ?_
    cases eq
    rw [renders e rfl, stands.kept_use here]

theorem made (stands : w.Stands moments) (name : String) (caches : List (Cache × Nat)) :
    Stands { w with loggers := w.loggers ++ [.ofName name], caches } moments where
  inForce_eq := stands.inForce_eq
  kept_eq place l here := by
    rw [List.getElem?_append] at here
    split at here
    · exact stands.kept_eq place l here
    · next outside =>
      -- no logger was at the place before, so none was used there
      have unbound : isBound place moments = false := by
        rw [← Bool.not_eq_true]
        exact fun bound => outside (stands.lt_of_isBound place bound)
      rw [List.getElem?_singleton] at here
      split at here
      · cases here
        rw [unbound]
        rfl
      · cases here
  lt_of_isBound place bound := by
    rw [List.length_append]
    exact Nat.lt_add_right _ (stands.lt_of_isBound place bound)
  written := stands.written

theorem withCaches (stands : w.Stands moments) (caches : List (Cache × Nat)) : Stands { w with caches } moments :=
  ⟨stands.inForce_eq, stands.kept_eq, stands.lt_of_isBound, stands.written⟩

theorem use (stands : w.Stands moments) (place : Nat) {say : Logger → Logger × Option Emission}
    (isUse : IsUse w.setup say) : (w.use place say).site.Stands (moments ++ (w.use place say).moments) := by
  unfold Site.use
  cases here : w.loggers[place]? with
  | none => exact stands.idle
  | some l =>
    dsimp only
    rw [(isUse l).1]
    exact stands.used here (isUse l).2

theorem note (stands : w.Stands moments) (cacheLogger : Nat) (clock : Json) (e : Event) :
    (w.note cacheLogger clock e).site.Stands (moments ++ (w.note cacheLogger clock e).moments) :=
  stands.use _ fun l => ⟨Logger.fst_log l, fun _ => Logger.renderer_log⟩

theorem noteAll (stands : w.Stands moments) (cacheLogger : Nat) (clock : Json) (events : List Event) :
    (w.noteAll cacheLogger clock events).site.Stands (moments ++ (w.noteAll cacheLogger clock events).moments) := by
  induction events generalizing w moments with
  | nil => exact stands.idle
  | cons e rest ih =>
    rw [Site.noteAll, ← List.append_assoc]
    exact ih (stands.note cacheLogger clock e)

theorem turn (stands : w.Stands moments) (s : Step) : (w.turn s).site.Stands (moments ++ (w.turn s).moments) := by
  cases s with
  | configure service name asJson =>
    rw [Site.turn, Setup.configure]
    cases threshold? name with
    | none => exact stands.idle
    | some level => exact stands.configured rfl
  | makeLogger name => exact stands.idle.made name w.caches
  | makeCache => exact stands.idle.made _ _
  | log logger method event fields clock =>
    refine stands.use logger fun l => ?_
    rcases l.call_cases w.setup method event fields clock with ⟨error, eq⟩ | eq
    · rw [eq]
      refine ⟨rfl, fun e emitted => ?_⟩
      cases emitted
    · rw [eq]
      exact ⟨rfl, fun _ => Logger.renderer_log⟩
  | call cache refuses call clock =>
    rw [Site.turn]
    cases w.caches[cache]? with
    | none => exact stands.idle
    | some c => exact (stands.withCaches _).noteAll c.2 clock _
  | normalize rule cache refuses clock =>
    rw [Site.turn]
    cases w.caches[cache]? with
    | none => exact stands.idle
    | some c => exact (stands.withCaches _).noteAll c.2 clock _

theorem after (stands : w.Stands moments) (steps : List Step) : (w.after steps).Stands (moments ++ w.trace steps) := by
  induction steps generalizing w moments with
  | nil => exact stands.idle
  | cons s rest ih =>
    rw [trace, ← List.append_assoc]
    exact ih (stands.turn s)

end Stands

/-- A site that was never configured is configured any number of times, while loggers and caches are made and used and
rules are normalised. An event that one of its loggers emits under a configuration is written as JSON exactly if the
configuration in force at the first use of that logger under any asks for it. This is the last one if the logger was not
used under a configuration before, and else the last one before the first of these uses. -/
theorem written_after (steps : List Step) (past future : List Moment) (place : Nat) (e : Emission) (last : Bool)
    (emitted : initial.trace steps = past ++ .used place (some e) :: future) (configured : inForce past = some last) :
    ∃ first, atFirstUse place past = some first ∧ (e.renderer = .json ↔ first = true) ∧
      (IsUnbound place past → first = last) ∧
      ∀ earlier emission later asJson, past = earlier ++ .used place emission :: later → IsUnbound place earlier →
        inForce earlier = some asJson → first = asJson := by
  have stands : (initial.after steps).Stands ([] ++ initial.trace steps) := stands_initial.after steps
  obtain ⟨first, atFirst⟩ : ∃ first, atFirstUse place past = some first :=
    Moment.exists_atFirstUse (by rw [configured]; nofun)
  refine ⟨first, atFirst, ?_, fun never => ?_, ?_⟩
  · rw [stands.written past place e future emitted, atFirst]
    exact Renderer.ofJson_eq_json_iff
  · rw [Moment.atFirstUse_of_unbound (Moment.isBound_eq_false_iff.2 never), configured] at atFirst
    exact (Option.some.inj atFirst).symm
  · rintro earlier emission later asJson rfl never inForce_eq
    have bound : isBound place (earlier ++ [.used place emission]) = true := by
      rw [Moment.isBound_concat_use, inForce_eq]
      rfl
    rw [List.append_cons, Moment.atFirstUse_append bound, Moment.atFirstUse_concat_use,
      Moment.atFirstUse_of_unbound (Moment.isBound_eq_false_iff.2 never), inForce_eq] at atFirst
    exact (Option.some.inj atFirst).symm

/-- A site is configured to write JSON and then for a console. The logger that was used in between goes on to write JSON,
though it was used before the first configuration too; a cache that is made then writes for the console, and so do the
rules, of which none was normalised before. -/
theorem written_after_switched :
    let rule : Rule := ⟨none, none, [⟨⟨"A", .string⟩, 1⟩], .empty, .ofBounds none none⟩
    let steps : List Step := [.makeLogger "a.b", .log 1 .error (.str "bare") [] .null, .configure "rules" "debug" true,
      .log 1 .info (.str "first") [] .null, .configure "rules" "debug" false, .makeCache,
      .normalize rule 0 .acceptAll .null, .log 1 .info (.str "second") [] .null]
    ∃ past cached replaced second,
      initial.trace steps = past ++ [.used 2 (some cached), .used 0 (some replaced), .used 1 (some second)] ∧
        inForce past = some false ∧
        cached.renderer ≠ .json ∧ replaced.renderer ≠ .json ∧ second.renderer = .json := by
  intro rule steps
  let moments := initial.trace steps
  refine ⟨moments.take 4, _, _, _, rfl, rfl, ?_, ?_, ?_⟩
  · obtain ⟨first, eq, json, -⟩ := written_after steps (moments.take 4) (moments.drop 5) 2 _ false rfl rfl
    cases eq
    exact fun wrong => Bool.false_ne_true (json.1 wrong)
  · obtain ⟨first, eq, json, -⟩ := written_after steps (moments.take 5) (moments.drop 6) 0 _ false rfl rfl
    cases eq
    exact fun wrong => Bool.false_ne_true (json.1 wrong)
  · obtain ⟨first, eq, json, -⟩ := written_after steps (moments.take 6) (moments.drop 7) 1 _ false rfl rfl
    cases eq
    exact json.2 rfl

/-- A logger that was used before a site is configured for a console still writes JSON, which the last configuration
does not ask for. -/
theorem not_written_by_last :
    ¬∀ (steps : List Step) (past future : List Moment) (place : Nat) (e : Emission) (last : Bool),
      initial.trace steps = past ++ .used place (some e) :: future → inForce past = some last →
        (e.renderer = .json ↔ last = true) := by
  intro byLast
  let steps : List Step := [.configure "rules" "debug" true, .makeLogger "a.b", .log 1 .info (.str "first") [] (.int 0),
    .configure "rules" "debug" false, .log 1 .info (.str "second") [] (.int 0)]
  have json := (byLast steps ((initial.trace steps).take 3) [] 1 _ false rfl rfl).1 rfl
  cases json

end Site

end Rulebook.Log

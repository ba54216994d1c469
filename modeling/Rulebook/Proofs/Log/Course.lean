import Rulebook.Log.Host
import Rulebook.Proofs.Log.Renderer

/-!
# Hosts seen as sites

A host is a site with one cache. Its loggers have places in the order in which they are made (`Places`): first the two of
its own, and then each one that is put under a handle or is used once by its name. So the course of a host is a list of
the moments of a site, in which what the host emits is emitted (`Host.emitted_course`), and a site can take steps that
have exactly these moments (`Host.exists_trace_eq`). What is known of sites is thus known of hosts: an event is written
as the configuration asks that was in force at the first use of its logger (`Host.written_course`).
-/

namespace Rulebook.Log

namespace Moment

def emission? : Moment → Option Emission
  | .configured _ => none
  | .used _ emission => emission

/-- What was emitted in some moments. -/
def emitted (moments : List Moment) : List Emission := moments.filterMap emission?

theorem emitted_append (moments more : List Moment) : emitted (moments ++ more) = emitted moments ++ emitted more :=
  List.filterMap_append

theorem emitted_cons_used (logger : Nat) (emission : Option Emission) (rest : List Moment) :
    emitted (.used logger emission :: rest) = emission.toList ++ emitted rest := by
  cases emission <;> rfl

end Moment

namespace Site

variable {w : Site} {l : Logger} {place : Nat}

theorem use_of_getElem? (here : w.loggers[place]? = some l) (say : Logger → Logger × Option Emission) :
    w.use place say = ⟨{ w with loggers := w.loggers.set place (say l).1 }, [.used place (say l).2]⟩ := by
  rw [use, here]

theorem turn_log {s : Setup} (setup : w.setup = s) (here : w.loggers[place]? = some l) (method : Method)
    (event : Json) (fields : List (String × Json)) (clock : Json) :
    w.turn (.log place method event fields clock) =
      ⟨{ w with loggers := w.loggers.set place (l.call s method event fields clock).1 },
        [.used place (l.call s method event fields clock).2.toOption.join]⟩ := by
  subst setup
  exact use_of_getElem? here _

theorem after_singleton (w : Site) (s : Step) : w.after [s] = (w.turn s).site := rfl

theorem trace_singleton (w : Site) (s : Step) : w.trace [s] = (w.turn s).moments := List.append_nil _

theorem trace_append (w : Site) (steps more : List Step) :
    w.trace (steps ++ more) = w.trace steps ++ (w.after steps).trace more := by
  induction steps generalizing w with
  | nil => rfl
  | cons s rest ih =>
    rw [List.cons_append, trace, ih, trace, List.append_assoc]
    rfl

end Site

namespace Host

/-! ### The course of a host -/

/-- The places of the loggers under handles, and the place of the logger that is made next. -/
structure Places where
  ofHandle : String → Nat
  next : Nat

/-- The place of the logger of the cache. It is made behind that of the rules. -/
def cacheLoggerPlace : Nat := 1

namespace Places

/-- There is no handle yet, and the two loggers of the host itself. -/
def initial : Places := ⟨fun _ => Site.ruleLogger, 2⟩

def after (p : Places) : Step → Places
  | .logger _ handle => ⟨fun other => if other = handle then p.next else p.ofHandle other, p.next + 1⟩
  | .log (.named _) .. => { p with next := p.next + 1 }
  | _ => p

end Places

/-- The moments in which the loggers of a host are used for what its cache and a rule noted. -/
def noted (h : Host) (clock : Json) : List Event → List Moment
  | [] => []
  | e :: rest => .used (Site.speaker cacheLoggerPlace e) (h.note clock e).2 :: (h.note clock e).1.noted clock rest

/-- The moments of a step of a host. -/
def moments (h : Host) (p : Places) (s : Step) : List Moment :=
  let t := h.turn s
  match s with
  | .configure _ _ asJson => if t.reply.isOk then [.configured asJson] else []
  | .log (.named _) .. => [.used p.next t.emissions.head?]
  | .log (.handle handle) .. =>
    if (h.handles.get? handle).isSome then [.used (p.ofHandle handle) t.emissions.head?] else []
  | .normalize spec clock =>
    match (spec.build (fun _ => none) (fun _ => none)).runFrom h.nextTag with
    | (.error _, _) => []
    | (.ok rule, tag) =>
      let n := rule.normalize Policy.acceptAll h.cache
      { h with cache := n.cache, nextTag := tag }.noted clock n.events
  | .clear clock => { h with cache := h.cache.clear.1 }.noted clock h.cache.clear.2
  | .state => []
  | .logger .. => []

/-- The moments of a host while it takes some steps. -/
def course (h : Host) (p : Places) : List Step → List Moment
  | [] => []
  | s :: rest => h.moments p s ++ (h.turn s).host.course (p.after s) rest

variable {h : Host} {p : Places} {w : Site} {l : Logger}

theorem host_called (h : Host) (outcome : Except CallError (Option Emission)) : (h.called outcome).host = h := by
  cases outcome <;> rfl

theorem emissions_called (h : Host) (outcome : Except CallError (Option Emission)) :
    (h.called outcome).emissions = outcome.toOption.join.toList := by
  cases outcome <;> rfl

theorem emitted_noted (h : Host) (clock : Json) (events : List Event) :
    Moment.emitted (h.noted clock events) = (h.noteAll clock events).2 := by
  induction events generalizing h with
  | nil => rfl
  | cons e rest ih =>
    rw [noted, Moment.emitted_cons_used, ih]
    rfl

theorem emitted_moments (h : Host) (p : Places) (s : Step) :
    Moment.emitted (h.moments p s) = (h.turn s).emissions := by
  cases s with
  | configure service name asJson =>
    rw [moments, turn]
    cases h.setup.configure service name asJson <;> rfl
  | state => rfl
  | logger name handle => rfl
  | log speaker method event fields clock =>
    cases speaker with
    | named name =>
      rw [moments, Moment.emitted_cons_used, turn, emissions_called, Option.head?_toList]
      exact List.append_nil _
    | handle handle =>
      rw [moments, turn]
      cases h.handles.get? handle with
      | none => rfl
      | some l =>
        rw [Option.isSome_some, if_pos rfl, Moment.emitted_cons_used]
        dsimp only
        rcases l.call h.setup method event fields clock with ⟨l', outcome⟩
        rw [emissions_called, Option.head?_toList]
        exact List.append_nil _
  | normalize spec clock =>
    rw [moments, turn]
    rcases (spec.build (fun _ => none) (fun _ => none)).runFrom h.nextTag with ⟨e | rule, tag⟩
    · rfl
    · exact emitted_noted _ clock _
  | clear clock => exact emitted_noted _ clock _

/-- What a host emits in a run is what is emitted in its course. -/
theorem emitted_course (h : Host) (p : Places) (steps : List Step) :
    Moment.emitted (h.course p steps) = (h.run steps).flatMap Turn.emissions := by
  induction steps generalizing h p with
  | nil => rfl
  | cons s rest ih =>
    rw [course, Moment.emitted_append, emitted_moments, ih]
    rfl

/-! ### Hosts and sites -/

/-- The loggers, the cache and the configuration of a host are those of a site, where its loggers have their places. -/
structure Shows (h : Host) (p : Places) (w : Site) : Prop where
  setup : w.setup = h.setup
  ruleLogger : w.loggers[Site.ruleLogger]? = some h.ruleLogger
  cacheLogger : w.loggers[cacheLoggerPlace]? = some h.cacheLogger
  cache : w.caches[0]? = some (h.cache, cacheLoggerPlace)
  handle : ∀ name l, h.handles.get? name = some l →
    cacheLoggerPlace < p.ofHandle name ∧ w.loggers[p.ofHandle name]? = some l
  apart : ∀ name other, h.handles.get? name ≠ none → h.handles.get? other ≠ none →
    p.ofHandle name = p.ofHandle other → name = other
  next : w.loggers.length = p.next

namespace Shows

/-- The handles stand behind the two loggers of the host itself. -/
theorem handle_set (shown : h.Shows p w) {place : Nat} (front : place ≤ cacheLoggerPlace) (l : Logger) (name : String)
    (l' : Logger) (named : h.handles.get? name = some l') :
    cacheLoggerPlace < p.ofHandle name ∧ (w.loggers.set place l)[p.ofHandle name]? = some l' := by
  obtain ⟨behind, here⟩ := shown.handle name l' named
  exact ⟨behind, (List.getElem?_set_ne (by omega)).trans here⟩

theorem set_ruleLogger (shown : h.Shows p w) (l : Logger) :
    Shows { h with ruleLogger := l } p { w with loggers := w.loggers.set Site.ruleLogger l } where
  setup := shown.setup
  ruleLogger := List.getElem?_set_self (List.getElem?_eq_some_iff.1 shown.ruleLogger).1
  cacheLogger := (List.getElem?_set_ne (by decide)).trans shown.cacheLogger
  cache := shown.cache
  handle := shown.handle_set (by decide) l
  apart := shown.apart
  next := List.length_set.trans shown.next

theorem set_cacheLogger (shown : h.Shows p w) (l : Logger) :
    Shows { h with cacheLogger := l } p { w with loggers := w.loggers.set cacheLoggerPlace l } where
  setup := shown.setup
  ruleLogger := (List.getElem?_set_ne (by decide)).trans shown.ruleLogger
  cacheLogger := List.getElem?_set_self (List.getElem?_eq_some_iff.1 shown.cacheLogger).1
  cache := shown.cache
  handle := shown.handle_set (by decide) l
  apart := shown.apart
  next := List.length_set.trans shown.next

theorem set_handle (shown : h.Shows p w) {name : String} (named : h.handles.get? name = some l) (l' : Logger) :
    Shows { h with handles := h.handles.set name l' } p { w with loggers := w.loggers.set (p.ofHandle name) l' } := by
  obtain ⟨behind, here⟩ := shown.handle name l named
  have front : ∀ {place : Nat}, place ≤ cacheLoggerPlace → p.ofHandle name ≠ place := by
    intro place front eq
    omega
  have known : ∀ other, (h.handles.set name l').get? other ≠ none → h.handles.get? other ≠ none := by
    intro other held
    by_cases same : other = name
    · rw [same, named]
      nofun
    · rwa [Fields.get?_set, if_neg same] at held
  refine ⟨shown.setup, (List.getElem?_set_ne (front (by decide))).trans shown.ruleLogger,
    (List.getElem?_set_ne (front (by decide))).trans shown.cacheLogger, shown.cache, fun other l'' held => ?_,
    fun a b ha hb => shown.apart a b (known a ha) (known b hb), List.length_set.trans shown.next⟩
  by_cases same : other = name
  · subst same
    rw [Fields.get?_set, if_pos rfl, Option.some.injEq] at held
    subst held
    exact ⟨behind, List.getElem?_set_self (List.getElem?_eq_some_iff.1 here).1⟩
  · rw [Fields.get?_set, if_neg same] at held
    obtain ⟨behind', there⟩ := shown.handle other l'' held
    refine ⟨behind', (List.getElem?_set_ne fun eq => same ?_).trans there⟩
    exact (shown.apart name other (by rw [named]; nofun) (by rw [held]; nofun) eq).symm

/-- A new logger of the site stands behind all that the host knows. -/
theorem made (shown : h.Shows p w) (l : Logger) :
    h.Shows { p with next := p.next + 1 } { w with loggers := w.loggers ++ [l] } := by
  have kept : ∀ {place : Nat} {l' : Logger}, w.loggers[place]? = some l' → (w.loggers ++ [l])[place]? = some l' :=
    fun here => (List.getElem?_append_left (List.getElem?_eq_some_iff.1 here).1).trans here
  refine ⟨shown.setup, kept shown.ruleLogger, kept shown.cacheLogger, shown.cache,
    fun name l' named => ⟨(shown.handle name l' named).1, kept (shown.handle name l' named).2⟩, shown.apart, ?_⟩
  rw [List.length_append, shown.next]
  rfl

theorem ofHandle_lt (shown : h.Shows p w) {name : String} (held : h.handles.get? name ≠ none) :
    p.ofHandle name < p.next := by
  obtain ⟨l, named⟩ := Option.ne_none_iff_exists'.1 held
  have inside := (List.getElem?_eq_some_iff.1 (shown.handle name l named).2).1
  rwa [shown.next] at inside

theorem made_handle (shown : h.Shows p w) (name handle : String) :
    Shows { h with handles := h.handles.set handle (.ofName name) } (p.after (.logger name handle))
      { w with loggers := w.loggers ++ [.ofName name] } := by
  have grown := shown.made (.ofName name)
  have known : ∀ other, other ≠ handle → (h.handles.set handle (.ofName name)).get? other ≠ none →
      h.handles.get? other ≠ none := by
    intro other apart held
    rwa [Fields.get?_set, if_neg apart] at held
  refine ⟨grown.setup, grown.ruleLogger, grown.cacheLogger, grown.cache, fun other l' held => ?_, fun a b ha hb => ?_,
    grown.next⟩
  · dsimp only [Places.after] at held ⊢
    by_cases same : other = handle
    · subst same
      rw [Fields.get?_set, if_pos rfl, Option.some.injEq] at held
      subst held
      have two := (List.getElem?_eq_some_iff.1 shown.cacheLogger).1
      rw [if_pos rfl, ← shown.next]
      exact ⟨two, List.getElem?_concat_length⟩
    · rw [Fields.get?_set, if_neg same] at held
      rw [if_neg same]
      exact grown.handle other l' held
  · dsimp only [Places.after] at ha hb ⊢
    by_cases ha' : a = handle <;> by_cases hb' : b = handle
    · exact fun _ => ha'.trans hb'.symm
    · rw [if_pos ha', if_neg hb']
      intro eq
      have := shown.ofHandle_lt (known b hb' hb)
      omega
    · rw [if_neg ha', if_pos hb']
      intro eq
      have := shown.ofHandle_lt (known a ha' ha)
      omega
    · rw [if_neg ha', if_neg hb']
      exact shown.apart a b (known a ha' ha) (known b hb' hb)

theorem withCache (shown : h.Shows p w) (cache : Cache) (nextTag : Nat) :
    Shows { h with cache, nextTag } p { w with caches := w.caches.set 0 (cache, cacheLoggerPlace) } :=
  ⟨shown.setup, shown.ruleLogger, shown.cacheLogger,
    List.getElem?_set_self (List.getElem?_eq_some_iff.1 shown.cache).1, shown.handle, shown.apart, shown.next⟩

theorem withSetup (shown : h.Shows p w) (setup : Setup) : Shows { h with setup } p { w with setup } :=
  ⟨rfl, shown.ruleLogger, shown.cacheLogger, shown.cache, shown.handle, shown.apart, shown.next⟩

theorem withTag (shown : h.Shows p w) (nextTag : Nat) : Shows { h with nextTag } p w :=
  ⟨shown.setup, shown.ruleLogger, shown.cacheLogger, shown.cache, shown.handle, shown.apart, shown.next⟩

/-! ### One step -/

theorem use_ruleLogger (shown : h.Shows p w) (say : Logger → Logger × Option Emission) :
    Shows { h with ruleLogger := (say h.ruleLogger).1 } p (w.use Site.ruleLogger say).site ∧
      (w.use Site.ruleLogger say).moments = [.used Site.ruleLogger (say h.ruleLogger).2] := by
  rw [Site.use_of_getElem? shown.ruleLogger]
  exact ⟨shown.set_ruleLogger _, rfl⟩

theorem use_cacheLogger (shown : h.Shows p w) (say : Logger → Logger × Option Emission) :
    Shows { h with cacheLogger := (say h.cacheLogger).1 } p (w.use cacheLoggerPlace say).site ∧
      (w.use cacheLoggerPlace say).moments = [.used cacheLoggerPlace (say h.cacheLogger).2] := by
  rw [Site.use_of_getElem? shown.cacheLogger]
  exact ⟨shown.set_cacheLogger _, rfl⟩

theorem note (shown : h.Shows p w) (clock : Json) (e : Event) :
    (h.note clock e).1.Shows p (w.note cacheLoggerPlace clock e).site ∧
      (w.note cacheLoggerPlace clock e).moments = [.used (Site.speaker cacheLoggerPlace e) (h.note clock e).2] := by
  let say (l : Logger) := l.log h.setup e.severity (.str e.title) e.fields clock
  have byRule := shown.use_ruleLogger say
  have byCache := shown.use_cacheLogger say
  rw [Site.note, shown.setup]
  cases e with
  | replaced rule drivers inserted => exact byRule
  | cached d => exact byCache
  | cleared => exact byCache

theorem noteAll (shown : h.Shows p w) (clock : Json) (events : List Event) :
    (h.noteAll clock events).1.Shows p (w.noteAll cacheLoggerPlace clock events).site ∧
      (w.noteAll cacheLoggerPlace clock events).moments = h.noted clock events := by
  induction events generalizing h w with
  | nil => exact ⟨shown, rfl⟩
  | cons e rest ih =>
    obtain ⟨now, noted⟩ := shown.note clock e
    obtain ⟨later, noted'⟩ := ih now
    rw [Site.noteAll, noted, noted']
    exact ⟨later, rfl⟩

/-- A logger that is made to be used once leaves what is known as it was. -/
theorem log_made (shown : h.Shows p w) (name : String) (method : Method) (event : Json)
    (fields : List (String × Json)) (clock : Json) :
    let acts : List Site.Step := [.makeLogger name, .log w.loggers.length method event fields clock]
    h.Shows { p with next := p.next + 1 } (w.after acts) ∧
      w.trace acts =
        [.used p.next ((Logger.ofName name).call h.setup method event fields clock).2.toOption.join] := by
  intro acts
  let made : Site := { w with loggers := w.loggers ++ [.ofName name] }
  have last := Site.turn_log (w := made) shown.setup List.getElem?_concat_length method event fields clock
  have after : w.after acts = (made.turn (.log w.loggers.length method event fields clock)).site := rfl
  have trace : w.trace acts = (made.turn (.log w.loggers.length method event fields clock)).moments :=
    made.trace_singleton _
  rw [after, trace, last, List.set_append_right _ _ (Nat.le_refl _), Nat.sub_self, List.set_cons_zero, ← shown.next]
  exact ⟨shown.next ▸ shown.made _, rfl⟩

/-- A site can take steps that have the moments of a step of a host. -/
theorem turn (shown : h.Shows p w) (s : Step) :
    ∃ acts, (h.turn s).host.Shows (p.after s) (w.after acts) ∧ w.trace acts = h.moments p s := by
  cases s with
  | configure service name asJson =>
    refine ⟨[.configure service name asJson], ?_⟩
    rw [Site.trace_singleton, Site.after_singleton, Site.turn, moments, Host.turn, shown.setup]
    cases h.setup.configure service name asJson with
    | error e => exact ⟨shown, rfl⟩
    | ok s => exact ⟨shown.withSetup s, rfl⟩
  | state => exact ⟨[], shown, rfl⟩
  | logger name handle => exact ⟨[.makeLogger name], shown.made_handle name handle, rfl⟩
  | log speaker method event fields clock =>
    cases speaker with
    | named name =>
      obtain ⟨later, logged⟩ := shown.log_made name method event fields clock
      refine ⟨[.makeLogger name, .log w.loggers.length method event fields clock], ?_⟩
      rw [logged, moments, Host.turn, host_called, emissions_called, Option.head?_toList]
      exact ⟨later, rfl⟩
    | handle handle =>
      rw [moments, Host.turn]
      cases named : h.handles.get? handle with
      | none => exact ⟨[], shown, rfl⟩
      | some l =>
        refine ⟨[.log (p.ofHandle handle) method event fields clock], ?_⟩
        rw [Site.trace_singleton, Site.after_singleton, Site.turn_log shown.setup (shown.handle handle l named).2]
        dsimp only
        rcases l.call h.setup method event fields clock with ⟨l', outcome⟩
        rw [host_called, emissions_called, Option.head?_toList]
        exact ⟨shown.set_handle named l', rfl⟩
  | normalize spec clock =>
    rw [moments, Host.turn]
    rcases (spec.build (fun _ => none) (fun _ => none)).runFrom h.nextTag with ⟨e | rule, tag⟩
    · exact ⟨[], shown.withTag tag, rfl⟩
    · refine ⟨[.normalize rule 0 .acceptAll clock], ?_⟩
      have normalized := (shown.withCache (rule.normalize .acceptAll h.cache).cache tag).noteAll clock
        (rule.normalize .acceptAll h.cache).events
      rw [Site.trace_singleton, Site.after_singleton, Site.turn, shown.cache]
      exact normalized
  | clear clock =>
    refine ⟨[.call 0 .acceptAll .clear clock], ?_⟩
    have cleared := (shown.withCache h.cache.clear.1 h.nextTag).noteAll clock h.cache.clear.2
    rw [Site.trace_singleton, Site.after_singleton, Site.turn, shown.cache]
    exact cleared

/-! ### Whole runs -/

theorem after (shown : h.Shows p w) (steps : List Step) :
    ∃ acts, (h.after steps).Shows (steps.foldl Places.after p) (w.after acts) ∧ w.trace acts = h.course p steps := by
  induction steps generalizing h p w with
  | nil => exact ⟨[], shown, rfl⟩
  | cons s rest ih =>
    obtain ⟨acts, now, first⟩ := shown.turn s
    obtain ⟨acts', later, others⟩ := ih now
    refine ⟨acts ++ acts', ?_, ?_⟩
    · rw [Site.after, List.foldl_append]
      exact later
    · rw [Site.trace_append, first, others, course]

end Shows

/-- The course of a host is what a site can do as well. -/
theorem exists_trace_eq (steps : List Step) : ∃ acts, Site.initial.trace acts = initial.course .initial steps := by
  have shown : initial.Shows .initial (Site.initial.after [.makeCache]) := ⟨rfl, rfl, rfl, rfl, nofun, nofun, rfl⟩
  obtain ⟨acts, -, trace⟩ := shown.after steps
  exact ⟨.makeCache :: acts, trace⟩

/-- Every event of a host is written as the moments before it tell. -/
theorem written_course (steps : List Step) : Moment.Written (initial.course .initial steps) := by
  obtain ⟨acts, trace⟩ := exists_trace_eq steps
  have stands := Site.stands_initial.after acts
  rw [List.nil_append, trace] at stands
  exact stands.written

end Host

end Rulebook.Log

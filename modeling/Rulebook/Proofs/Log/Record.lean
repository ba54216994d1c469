import Rulebook.Log.Processor
import Rulebook.Proofs.Log.Threshold

/-!
# Records that reach the renderer

The record of an event is what the processors make of the caller's fields, whatever stamp they write before the clock is
read (`Processor.processAll_pipeline`). If the names of the fields are free, it is these fields overridden by the event,
the logger, the level and the time, and by the service of a logger with a dot in its name (`Record.ofEvent_of_free`). To
tell the service and the time of such a record again changes nothing (`Record.addService_ofEvent`).
-/

namespace Rulebook.Log

/-! ### Services -/

theorem service?_eq_none_iff {logger : String} : service? logger = none ↔ '.' ∉ logger.toList := by
  simp [service?]

/-- The service of a logger is the part of its name before the first dot. -/
theorem service?_append_dot {part : String} (undotted : '.' ∉ part.toList) (rest : String) :
    service? (part ++ "." ++ rest) = some part := by
  have dot : ".".toList = ['.'] := rfl
  have before : ∀ c ∈ part.toList, (c != '.') = true := by
    intro c hc
    rw [bne_iff_ne]
    rintro rfl
    exact undotted hc
  rw [service?, if_pos (by simp [String.toList_append, dot]), String.toList_append, String.toList_append, dot,
    List.append_assoc, List.takeWhile_append_of_pos before]
  simp

namespace Record

variable {r : Record} {name : String}

theorem get?_setService (r : Record) (logger : String) :
    (r.setService logger).get? name =
      if name = "service" then ((service? logger).map Json.str).or (r.get? "service") else r.get? name := by
  unfold setService
  split
  · next service told =>
    rw [Fields.get?_set, told]
    rfl
  · next told =>
    rw [told]
    split
    · next h => rw [h]; rfl
    · rfl

theorem addService_of_get? {logger : String} (told : r.get? "logger" = some (.str logger)) :
    r.addService = .ok (r.setService logger) := by
  rw [addService, told]

/-! ### Values that steer -/

theorem dropSteering_of_free (free : ∀ name ∈ steeringNames, r.get? name = none) : r.dropSteering = r := by
  have arguments : r.get? "positional_args" = none := free _ (by decide)
  have stack : r.get? "stack_info" = none := free _ (by decide)
  have exception : r.get? "exc_info" = none := free _ (by decide)
  unfold dropSteering
  rw [arguments]
  show ((r.erase "positional_args").erase "stack_info").erase "exc_info" = r
  rw [Fields.erase_of_get? arguments, Fields.erase_of_get? stack, Fields.erase_of_get? exception]

theorem get?_dropSteering (r : Record) (kept : name ∉ steeringNames) : r.dropSteering.get? name = r.get? name := by
  simp only [steeringNames, List.mem_cons, List.not_mem_nil, or_false, not_or] at kept
  obtain ⟨arguments, stack, exception⟩ := kept
  unfold dropSteering
  split
  · rw [Fields.get?_erase, if_neg exception, Fields.get?_erase, if_neg stack]
  · show (((r.erase "positional_args").erase "stack_info").erase "exc_info").get? name = r.get? name
    rw [Fields.get?_erase, if_neg exception, Fields.get?_erase, if_neg stack, Fields.get?_erase, if_neg arguments]

/-! ### The record of an event -/

/-- Whatever time a record told before, it tells the time that the clock reads. -/
theorem addTimestamp_setService (r : Record) (logger : String) (stamp clock : Json) :
    (setService (r.set "timestamp" stamp) logger).addTimestamp clock =
      setService (r.set "timestamp" clock) logger := by
  unfold setService addTimestamp
  split
  · exact Fields.set_set_again (by decide) r stamp _ clock
  · exact Fields.set_set_self r "timestamp" stamp clock

/-- The caller's fields with the event, the logger and the level. -/
def named (fields : List (String × Json)) (event : Json) (logger : String) (severity : Severity) : Record :=
  ((setEvent (Fields.ofPairs fields) event).set "logger" (.str logger)).set "level" (.str severity.name)

variable {fields : List (String × Json)} {event clock : Json} {logger : String} {severity : Severity}

theorem ofEvent_eq : ofEvent fields event logger severity clock =
    setService ((named fields event logger severity).dropSteering.set "timestamp" clock) logger :=
  addTimestamp_setService _ logger clock clock

theorem get?_named_logger : (named fields event logger severity).get? "logger" = some (.str logger) := by
  rw [named, Fields.get?_set, if_neg (by decide), Fields.get?_set, if_pos rfl]

theorem get?_ofPairs_of_free (free : ∀ p ∈ fields, p.1 ∉ reservedNames) {name : String}
    (reserved : name ∈ reservedNames) : (Fields.ofPairs fields).get? name = none := by
  refine Fields.get?_setAll_of_not_mem (fun given => ?_) .empty
  obtain ⟨p, hp, rfl⟩ := List.mem_map.1 given
  exact free p hp reserved

/-- The record of an event whose fields have free names is these fields, overridden. -/
theorem ofEvent_of_free (free : ∀ p ∈ fields, p.1 ∉ reservedNames) (text logger : String) (severity : Severity)
    (clock : Json) : ofEvent fields (.str text) logger severity clock =
      setService ((Fields.ofPairs fields).setAll [("event", .str text), ("logger", .str logger),
        ("level", .str severity.name), ("timestamp", clock)]) logger := by
  have unsteered : ∀ name ∈ steeringNames, (named fields (.str text) logger severity).get? name = none := by
    intro name steers
    have reserved : name ∈ reservedNames := List.mem_append_right _ steers
    have apart : name ∉ ["event", "logger", "level"] := by
      simp only [steeringNames, List.mem_cons, List.not_mem_nil, or_false] at steers
      rcases steers with rfl | rfl | rfl <;> decide
    simp only [List.mem_cons, List.not_mem_nil, or_false, not_or] at apart
    have told : named fields (.str text) logger severity =
        (((Fields.ofPairs fields).set "event" (.str text)).set "logger" (.str logger)).set "level"
          (.str severity.name) := rfl
    rw [told, Fields.get?_set, if_neg apart.2.2, Fields.get?_set, if_neg apart.2.1, Fields.get?_set, if_neg apart.1,
      get?_ofPairs_of_free free reserved]
  rw [ofEvent_eq, dropSteering_of_free unsteered]
  rfl

theorem get?_ofEvent_of_free (free : ∀ p ∈ fields, p.1 ∉ reservedNames) (text logger : String) (severity : Severity)
    (clock : Json) (name : String) : (ofEvent fields (.str text) logger severity clock).get? name =
      if name = "service" then ((service? logger).map Json.str).or ((Fields.ofPairs fields).get? "service")
      else if name = "timestamp" then some clock
      else if name = "level" then some (.str severity.name)
      else if name = "logger" then some (.str logger)
      else if name = "event" then some (.str text)
      else (Fields.ofPairs fields).get? name := by
  have overridden : ∀ other, ((Fields.ofPairs fields).setAll [("event", .str text), ("logger", .str logger),
      ("level", .str severity.name), ("timestamp", clock)]).get? other =
        if other = "timestamp" then some clock
        else if other = "level" then some (.str severity.name)
        else if other = "logger" then some (.str logger)
        else if other = "event" then some (.str text)
        else (Fields.ofPairs fields).get? other := by
    intro other
    simp only [Fields.setAll, List.foldl_cons, List.foldl_nil, Fields.get?_set]
  rw [ofEvent_of_free free, get?_setService, overridden, overridden]
  rfl

/-- Both the service and the time of a record are what they are told to be again. -/
theorem addService_ofEvent (fields : List (String × Json)) (event : Json) (logger : String) (severity : Severity)
    (clock : Json) :
    let r := ofEvent fields event logger severity clock
    r.addService = .ok r ∧ r.addTimestamp clock = r := by
  intro r
  have eq : r = setService ((named fields event logger severity).dropSteering.set "timestamp" clock) logger :=
    ofEvent_eq
  have told : r.get? "logger" = some (.str logger) := by
    rw [eq, get?_setService, if_neg (by decide), Fields.get?_set, if_neg (by decide), get?_dropSteering _ (by decide)]
    exact get?_named_logger
  have timed : r.get? "timestamp" = some clock := by
    rw [eq, get?_setService, if_neg (by decide), Fields.get?_set, if_pos rfl]
  refine ⟨?_, Fields.set_of_get? timed⟩
  rw [addService_of_get? told, Except.ok.injEq]
  cases service : service? logger with
  | none => rw [setService, service]
  | some part =>
    have served : r.get? "service" = some (.str part) := by
      rw [eq, get?_setService, if_pos rfl, service]
      rfl
    rw [setService, service]
    exact Fields.set_of_get? served

end Record

/-! ### Processors -/

namespace Processor

theorem processAll_append (first rest : List Processor) (o : Occasion) (r : Record) :
    processAll (first ++ rest) o r = (processAll first o r).bind (processAll rest o) :=
  List.foldlM_append

/-- What steers how a record is written is taken out in two parts, between which the stamp is written. -/
theorem exists_formatted (o : Occasion) (r : Record) :
    ∃ formatted, process o r .formatArguments = .ok formatted ∧
      r.dropSteering = (formatted.erase "stack_info").erase "exc_info" := by
  unfold Record.dropSteering process
  cases r.get? "positional_args" with
  | none => exact ⟨_, rfl, rfl⟩
  | some value => cases value <;> exact ⟨_, rfl, rfl⟩

theorem processAll_steering (o : Occasion) (r : Record) :
    processAll [.formatArguments, .addStamp, .renderStack, .renderException] o r =
      .ok (r.dropSteering.set "timestamp" o.stamp) := by
  obtain ⟨formatted, first, all⟩ := exists_formatted o r
  rw [processAll, List.foldlM_cons, first, all, ← Fields.erase_set_of_ne (by decide),
    ← Fields.erase_set_of_ne (by decide)]
  rfl

/-- The processors make of the caller's fields the record of the event, whatever stamp they write on the way. -/
theorem processAll_pipeline (fields : List (String × Json)) (event : Json) (o : Occasion) :
    processAll pipeline o (Record.setEvent (Fields.ofPairs fields) event) =
      .ok (.ofEvent fields event o.logger o.severity o.clock) := by
  let named := Record.named fields event o.logger o.severity
  have told : (named.dropSteering.set "timestamp" o.stamp).get? "logger" = some (.str o.logger) := by
    rw [Fields.get?_set, if_neg (by decide), Record.get?_dropSteering _ (by decide)]
    exact Record.get?_named_logger
  calc processAll pipeline o (Record.setEvent (Fields.ofPairs fields) event)
    _ = processAll ([.formatArguments, .addStamp, .renderStack, .renderException] ++
          [.decodeBytes, .addService, .addTimestamp]) o named := rfl
    _ = processAll [.decodeBytes, .addService, .addTimestamp] o (named.dropSteering.set "timestamp" o.stamp) := by
      rw [processAll_append, processAll_steering]
      rfl
    _ = (Record.addService (named.dropSteering.set "timestamp" o.stamp)).bind
          fun r => .ok (r.addTimestamp o.clock) := rfl
    _ = .ok ((Record.setService (named.dropSteering.set "timestamp" o.stamp) o.logger).addTimestamp o.clock) := by
      rw [Record.addService_of_get? told]
      rfl
    _ = .ok (.ofEvent fields event o.logger o.severity o.clock) := by
      rw [Record.addTimestamp_setService, Record.ofEvent_eq]

end Processor

/-! ### What reaches the renderer -/

namespace Setup

/-- The first configuration of a process sets the threshold that it names. -/
theorem threshold_of_configure {s : Setup} {service name : String} {asJson : Bool}
    (configured : initial.configure service name asJson = .ok s) :
    s.isConfigured = true ∧ threshold? name = some s.threshold := by
  unfold configure at configured
  split at configured
  · next level known =>
    cases configured
    exact ⟨rfl, known⟩
  · cases configured

end Setup

/-- A new process is configured for a threshold. Whatever logger with a name tells an event then, by a method of
the five and with fields of free names, nothing is emitted if the level of the method is below the threshold. Otherwise
the record that is emitted is what all processors make of the fields and the event, with any stamp, and this is the
fields overridden by the event, the logger's name, the method's name and the reading of the clock, and by the service if
the name has a dot: the part before the first one. To tell the service and the time again leaves the record as it is. -/
theorem Logger.record_spec (service threshold : String) (asJson : Bool) (s : Setup)
    (configured : Setup.initial.configure service threshold asJson = .ok s)
    (name : String) (isNamed : name ≠ "") (kept : Option Renderer)
    (method : Method) (single : method ≠ .fatal) (event : String)
    (fields : List (String × Json)) (free : ∀ p ∈ fields, p.1 ∉ reservedNames) (clock : Json) :
    let l : Logger := { Logger.ofName name with kept }
    let given := Fields.ofPairs fields
    let said := (l.call s method (.str event) fields clock).2
    threshold? threshold = some s.threshold ∧
      (method.severity.level < s.threshold → said = .ok none) ∧
      (s.threshold ≤ method.severity.level → ∃ renderer r, said = .ok (some ⟨renderer, r⟩) ∧
        (∀ stamp, Processor.processAll Processor.pipeline ⟨name, method.severity, stamp, clock⟩
          (given.set "event" (.str event)) = .ok r) ∧
        r = Record.setService (given.setAll
          [("event", .str event), ("logger", .str name), ("level", .str method.name), ("timestamp", clock)]) name ∧
        r.get? "event" = some (.str event) ∧ r.get? "logger" = some (.str name) ∧
        r.get? "level" = some (.str method.name) ∧ r.get? "timestamp" = some clock ∧
        (∀ part rest, '.' ∉ part.toList → name = part ++ "." ++ rest → r.get? "service" = some (.str part)) ∧
        ('.' ∉ name.toList → r.get? "service" = given.get? "service") ∧
        (∀ other ∉ ["event", "logger", "level", "timestamp", "service"], r.get? other = given.get? other) ∧
        r.addService.map (·.addTimestamp clock) = .ok r) := by
  intro l given said
  obtain ⟨isConfigured, asked⟩ := Setup.threshold_of_configure configured
  obtain ⟨renderer, used⟩ := exists_kept_use isConfigured l
  have ofName : l.name = name := if_neg (by simpa [String.isEmpty_iff] using isNamed)
  have levelName : method.severity.name = method.name := by
    cases method with
    | fatal => exact absurd rfl single
    | _ => rfl
  have told : said = .ok (if method.severity.level < s.threshold then none
      else some ⟨renderer, .ofEvent fields (.str event) name method.severity clock⟩) := by
    rw [← ofName, ← log_of_kept used]
    exact call_of_free free l s method (.str event) clock
  refine ⟨asked, fun below => by rw [told, if_pos below], fun through => ?_⟩
  have look := Record.get?_ofEvent_of_free free event name method.severity clock
  obtain ⟨served, timed⟩ := Record.addService_ofEvent fields (.str event) name method.severity clock
  refine ⟨renderer, .ofEvent fields (.str event) name method.severity clock, ?_, ?_, ?_, ?_, ?_, ?_, ?_, ?_, ?_, ?_, ?_⟩
  · rw [told, if_neg (Nat.not_lt_of_le through)]
  · exact fun stamp => Processor.processAll_pipeline fields (.str event) ⟨name, method.severity, stamp, clock⟩
  · rw [Record.ofEvent_of_free free, levelName]
  · rw [look]
    rfl
  · rw [look]
    rfl
  · rw [look, levelName]
    rfl
  · rw [look]
    rfl
  · intro part rest undotted dotted
    rw [look, if_pos rfl, dotted, service?_append_dot undotted]
    rfl
  · intro undotted
    rw [look, if_pos rfl, service?_eq_none_iff.2 undotted]
    rfl
  · intro other apart
    simp only [List.mem_cons, List.not_mem_nil, or_false, not_or] at apart
    obtain ⟨event, logger, level, timestamp, service⟩ := apart
    rw [look, if_neg service, if_neg timestamp, if_neg level, if_neg logger, if_neg event]
  · rw [served]
    exact congrArg Except.ok timed

/-- A logger with two dots in its name overrides a service and a level that its caller gives, and leaves the other field
as it is; below the threshold it tells nothing. -/
theorem Logger.record_spec_dotted :
    let s : Setup := ⟨some .json, 20⟩
    let l := Logger.ofName "a.b.c"
    let fields := [("service", Json.str "own"), ("rate", Json.nat 1), ("level", Json.nat 7)]
    Setup.initial.configure "rules" "Info" true = .ok s ∧ (∀ p ∈ fields, p.1 ∉ reservedNames) ∧
      (l.call s .debug (.str "seen") fields (.int 5)).2 = .ok none ∧
      ∃ renderer r, (l.call s .warning (.str "seen") fields (.int 5)).2 = .ok (some ⟨renderer, r⟩) ∧
        r.get? "service" = some (.str "a") ∧ r.get? "rate" = some (.nat 1) ∧ r.get? "level" = some (.str "warning") ∧
        r.addService.map (·.addTimestamp (.int 5)) = .ok r := by
  intro s l fields
  have configured : Setup.initial.configure "rules" "Info" true = .ok s := rfl
  have free : ∀ p ∈ fields, p.1 ∉ reservedNames := by
    simp only [fields, List.forall_mem_cons]
    exact ⟨by decide, by decide, by decide, nofun⟩
  have spec (method : Method) (single : method ≠ .fatal) :=
    record_spec "rules" "Info" true s configured "a.b.c" (by decide) none method single "seen" fields free (.int 5)
  obtain ⟨-, dropped, -⟩ := spec .debug nofun
  obtain ⟨-, -, through⟩ := spec .warning nofun
  obtain ⟨renderer, r, said, -, -, -, -, level, -, service, -, others, again⟩ := through (by decide)
  exact ⟨configured, free, dropped (by decide), renderer, r, said, service "a" "b.c" (by decide) rfl,
    others "rate" (by decide), level, again⟩

end Rulebook.Log

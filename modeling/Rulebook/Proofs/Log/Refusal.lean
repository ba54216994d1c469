import Rulebook.Log.Host

/-!
# Configurations that are refused

A configuration is refused exactly if what it names is no threshold in upper case (`Host.isRefused_iff`). It says which
service asked for which threshold and leaves the host as it was (`Host.turn_configure_of_isRefused`). So refused
configurations may be struck out of any run, and all else comes out as it did with them (`Host.run_filter_isRefused`).
-/

namespace Rulebook.Log

theorem threshold?_eq_none_iff {name : String} :
    threshold? name = none ↔
      Text.upper name ∉ ["CRITICAL", "FATAL", "ERROR", "WARNING", "WARN", "INFO", "DEBUG", "NOTSET"] := by
  rw [threshold?, List.lookup_eq_none_iff]
  simp [thresholds]

namespace Host

variable {h : Host} {s : Step} {service name : String} {asJson : Bool}

/-- Whether a step is a configuration that names no threshold. -/
def Step.isRefused : Step → Bool
  | .configure _ name _ => (threshold? name).isNone
  | _ => false

theorem isRefused_iff :
    (Step.configure service name asJson).isRefused = true ↔
      Text.upper name ∉ ["CRITICAL", "FATAL", "ERROR", "WARNING", "WARN", "INFO", "DEBUG", "NOTSET"] := by
  rw [Step.isRefused, Option.isNone_iff_eq_none, threshold?_eq_none_iff]

theorem turn_configure_of_isRefused (refused : (Step.configure service name asJson).isRefused = true) :
    h.turn (.configure service name asJson) = ⟨h, .error (.threshold ⟨service, name⟩), []⟩ := by
  have unknown : threshold? name = none := Option.isNone_iff_eq_none.1 refused
  simp only [turn, Setup.configure, unknown]

theorem exists_reply_of_not_isRefused (accepted : (Step.configure service name asJson).isRefused = false) :
    ∃ setup, (h.turn (.configure service name asJson)).reply = .ok (some setup) := by
  obtain ⟨level, known⟩ := Option.isSome_iff_exists.1 (Option.isNone_eq_false_iff.1 accepted)
  simp only [turn, Setup.configure, known]
  exact ⟨_, rfl⟩

/-- A refused configuration leaves the host as it was. -/
theorem host_turn_of_isRefused (refused : s.isRefused = true) : (h.turn s).host = h := by
  cases s with
  | configure service name asJson => rw [turn_configure_of_isRefused refused]
  | _ => cases refused

/-- What comes of the other steps of a run is what comes of them without the refused configurations. -/
theorem run_filter_isRefused (h : Host) (steps : List Step) :
    h.run (steps.filter (!·.isRefused)) =
      ((steps.zip (h.run steps)).filter fun p => !p.1.isRefused).map Prod.snd := by
  induction steps generalizing h with
  | nil => rfl
  | cons s rest ih =>
    rw [run, List.zip_cons_cons]
    cases refused : s.isRefused with
    | true =>
      -- the rest is run from the host as it was, for which the hypothesis stands
      rw [List.filter_cons_of_neg (by simp [refused]), List.filter_cons_of_neg (by simp [refused]), ih,
        host_turn_of_isRefused refused]
    | false =>
      rw [List.filter_cons_of_pos (by simp [refused]), List.filter_cons_of_pos (by simp [refused]), run, ih,
        List.map_cons]

/-- To configure a host in any state fails exactly if the name in upper case is none of the eight names of thresholds.
Then it is told which service asked for what, nothing is emitted, and the host is in the state in which it was. Of any
steps, with refused configurations anywhere between them, what comes of the others is what comes of them alone. -/
theorem configure_spec (h : Host) (service name : String) (asJson : Bool) :
    let t := h.turn (.configure service name asJson)
    ((∃ error, t.reply = .error error) ↔
      Text.upper name ∉ ["CRITICAL", "FATAL", "ERROR", "WARNING", "WARN", "INFO", "DEBUG", "NOTSET"]) ∧
      (∀ error, t.reply = .error error → t = ⟨h, .error (.threshold ⟨service, name⟩), []⟩) ∧
      (UnknownThreshold.mk service name).problem =
        ⟨.configuration, .str "CONFIGURATION_ERROR", .str ("Unknown log level: " ++ name),
          .obj [("service", .str service), ("log_level", .str name)]⟩ ∧
      ∀ steps : List Step, h.run (steps.filter (!·.isRefused)) =
        ((steps.zip (h.run steps)).filter fun p => !p.1.isRefused).map Prod.snd := by
  intro t
  have failed : (∃ error, t.reply = .error error) ↔ (Step.configure service name asJson).isRefused = true := by
    constructor
    · rintro ⟨error, told⟩
      rw [← Bool.not_eq_false]
      intro accepted
      obtain ⟨setup, reply⟩ := exists_reply_of_not_isRefused (h := h) accepted
      cases told.symm.trans reply
    · intro refused
      exact ⟨_, congrArg Turn.reply (turn_configure_of_isRefused refused)⟩
  exact ⟨failed.trans isRefused_iff, fun error told => turn_configure_of_isRefused (failed.1 ⟨error, told⟩), rfl,
    run_filter_isRefused h⟩

/-- A process that was configured, and refuses a threshold between two events of one logger, keeps that logger and tells
the second event as if it had not been asked. -/
theorem configure_spec_refused :
    let h := initial.after [.configure "rules" "ınfo" true, .logger "a.b" "seen",
      .log (.handle "seen") .info (.str "first") [] .null]
    let second := Step.log (.handle "seen") .debug (.str "second") [] .null
    (h.turn (.configure "rules" " debug" false)).host = h ∧
      h.run [second] = ((h.run [.configure "rules" " debug" false, second]).drop 1) := by
  intro h second
  obtain ⟨failed, refused, -, others⟩ := configure_spec h "rules" " debug" false
  obtain ⟨error, told⟩ := failed.2 (by decide)
  refine ⟨by rw [refused error told], ?_⟩
  exact others [.configure "rules" " debug" false, second]

end Host

end Rulebook.Log

import Rulebook.Settings.Host

/-!
# Setting up after a failure

A host that is set up by the settings of the process goes by those it keeps, or makes them from its surroundings and
keeps them before it configures logging (`Host.setUpKept_cases`). So a set-up that fails because settings cannot be made
leaves the host as it was; but if it fails because there is no threshold of the name that they give, they are kept
nevertheless, and the host goes on failing in any surroundings until they are forgotten (`Host.config_after`). What a
set-up in other surroundings comes to after one that failed, and when it comes to the same as without it, is
`Host.setUp_after_failed`.
-/

namespace Rulebook.Settings

theorem fileVariables_nil (environment : Fields String) :
    (Surroundings.mk environment []).fileVariables = .empty := by
  have noEntries : Entry.readAll [] = [] := by rw [Entry.readAll]; rfl
  show (Entry.readAll []).foldl (File.add environment) .empty = .empty
  rw [noEntries]
  rfl

/-- Without arguments and without a settings file, settings are those of the environment, or else by default. -/
theorem given_environment (environment : Fields String) (s : Setting) :
    given .empty ⟨environment, []⟩ s = ((valueIn environment s).map Json.str).getD s.default := by
  rw [given, fileVariables_nil]
  cases valueIn environment s <;> rfl

namespace Host

variable {h : Host} {k : Kept} {config : Config}

/-- A host in other surroundings. -/
def within (h : Host) (around : Surroundings) : Host := { h with around }

/-- The settings by which a host is set up: those it keeps, or else those that its surroundings give. -/
def settings (h : Host) : Except (List Fault) Config :=
  match h.kept with
  | some k => .ok k.config
  | none => Config.ofSources .empty h.around

/-- A host that keeps given settings, unless it keeps some already. -/
def keeping (h : Host) (config : Config) : Host := { h with kept := some (h.kept.getD ⟨config, none⟩) }

/-! ### One set-up -/

theorem settings_of_kept (kept : h.kept = some k) : h.settings = .ok k.config := by
  rw [settings, kept]

theorem settings_of_none (kept : h.kept = none) : h.settings = Config.ofSources .empty h.around := by
  rw [settings, kept]

theorem keep_of_kept (kept : h.kept = some k) : h.keep = .ok (h, k) := by
  rw [keep, kept]

theorem keeping_of_kept (kept : h.kept = some k) : h.keeping config = h := by
  rw [keeping, kept, Option.getD_some, ← kept]

theorem keep_of_ok (made : h.settings = .ok config) :
    h.keep = .ok (h.keeping config, ⟨config, h.kept.bind Kept.number⟩) := by
  cases kept : h.kept with
  | none =>
    rw [settings_of_none kept] at made
    rw [keep, keeping, kept]
    dsimp only
    rw [made]
    rfl
  | some k =>
    rw [settings_of_kept kept] at made
    cases made
    rw [keep_of_kept kept, keeping_of_kept kept]
    rfl

theorem keep_of_error {faults : List Fault} (wrong : h.settings = .error faults) : h.keep = .error faults := by
  cases kept : h.kept with
  | none =>
    rw [settings_of_none kept] at wrong
    rw [keep, kept]
    dsimp only
    rw [wrong]
    rfl
  | some k =>
    rw [settings_of_kept kept] at wrong
    cases wrong

/-- A set-up by settings that cannot be made fails and leaves the host as it is. -/
theorem setUpKept_of_error {faults : List Fault} (wrong : h.settings = .error faults) :
    h.setUpKept = (h, .error (.invalid faults)) := by
  rw [setUpKept, keep_of_error wrong]

/-- A set-up by settings with the name of no threshold fails and keeps them. -/
theorem setUpKept_of_unknown (made : h.settings = .ok config) (unknown : Log.threshold? config.logLevel = none) :
    h.setUpKept = (h.keeping config, .error (.threshold ⟨config.serviceName, config.logLevel⟩)) := by
  rw [setUpKept, keep_of_ok made]
  simp only [configure, Log.Setup.configure, unknown]
  rfl

/-- A set-up by settings with the name of a threshold succeeds and hands them out under the number they have, or a new
one. -/
theorem setUpKept_of_known {level : Nat} (made : h.settings = .ok config)
    (known : Log.threshold? config.logLevel = some level) :
    h.setUpKept.2 = .ok ((h.kept.bind Kept.number).getD h.numbered.length) ∧
      h.setUpKept.1.setup = ⟨some (if config.jsonLogs then .json else .console),
        if h.setup.isConfigured then h.setup.threshold else level⟩ := by
  rw [setUpKept, keep_of_ok made]
  simp only [configure, Log.Setup.configure, known]
  cases h.kept.bind Kept.number <;> exact ⟨rfl, rfl⟩

/-- A set-up fails because settings cannot be made, or because they give the name of no threshold. -/
theorem setUpKept_cases {error : StepError} (failed : h.setUpKept.2 = .error error) :
    (∃ faults, h.settings = .error faults ∧ error = .invalid faults) ∨
      ∃ config, h.settings = .ok config ∧ Log.threshold? config.logLevel = none ∧
        error = .threshold ⟨config.serviceName, config.logLevel⟩ := by
  cases made : h.settings with
  | error faults =>
    rw [setUpKept_of_error made] at failed
    cases failed
    exact Or.inl ⟨faults, rfl, rfl⟩
  | ok config =>
    cases threshold : Log.threshold? config.logLevel with
    | none =>
      rw [setUpKept_of_unknown made threshold] at failed
      cases failed
      exact Or.inr ⟨config, rfl, threshold, rfl⟩
    | some level =>
      rw [(setUpKept_of_known made threshold).1] at failed
      cases failed

/-! ### Settings that are kept -/

theorem config_handOutKept (kept : h.kept = some k) : (h.handOutKept k).1.kept.map Kept.config = some k.config := by
  unfold handOutKept
  cases number : k.number with
  | none => rfl
  | some n => exact congrArg (Option.map Kept.config) kept

theorem kept_configure {h' : Host} (configured : h.configure config = .ok h') : h'.kept = h.kept := by
  unfold configure at configured
  cases given : h.setup.configure config.serviceName config.logLevel config.jsonLogs with
  | error e =>
    rw [given] at configured
    cases configured
  | ok setup =>
    rw [given] at configured
    cases configured
    rfl

theorem kept_setUpNumbered (h : Host) (number : Int) : (h.setUpNumbered number).1.kept = h.kept := by
  unfold setUpNumbered
  split
  · rfl
  · split
    · next configured => exact kept_configure configured
    · rfl

theorem config_setUpKept (kept : h.kept = some k) : h.setUpKept.1.kept.map Kept.config = some k.config := by
  unfold setUpKept
  rw [keep_of_kept kept]
  dsimp only
  split
  · next configured => exact config_handOutKept ((kept_configure configured).trans kept)
  · exact congrArg (Option.map Kept.config) kept

/-- Settings are kept over every step but the one that forgets them. -/
theorem config_turn {s : Step} (kept : h.kept.map Kept.config = some config) (remembers : s ≠ .forget) :
    (h.turn s).host.kept.map Kept.config = some config := by
  obtain ⟨k, hk, rfl⟩ := Option.map_eq_some_iff.1 kept
  cases s with
  | setVariable name value =>
    rw [turn]
    cases h.around.setVariable name value with
    | ok around => exact kept
    | error e => exact kept
  | removeVariable name => exact kept
  | writeFile lines => exact kept
  | forget => exact absurd rfl remembers
  | make arguments =>
    rw [turn]
    cases Config.ofSources arguments h.around with
    | ok config => exact kept
    | error faults => exact kept
  | get =>
    rw [turn, keep_of_kept hk]
    exact config_handOutKept hk
  | setUp number =>
    cases number with
    | none => exact config_setUpKept hk
    | some n => exact (congrArg (Option.map Kept.config) (kept_setUpNumbered h n)).trans kept

theorem config_after {steps : List Step} (kept : h.kept.map Kept.config = some config) (remembers : .forget ∉ steps) :
    (h.after steps).kept.map Kept.config = some config := by
  induction steps generalizing h with
  | nil => exact kept
  | cons s rest ih =>
    rw [List.mem_cons, not_or] at remembers
    exact ih (config_turn kept (Ne.symm remembers.1)) remembers.2

theorem settings_of_config (kept : h.kept.map Kept.config = some config) : h.settings = .ok config := by
  obtain ⟨k, hk, rfl⟩ := Option.map_eq_some_iff.1 kept
  exact settings_of_kept hk

/-! ### What a failure leaves behind -/

section Failure

variable {error : StepError} {e : Log.UnknownThreshold}

theorem setup_of_failed (failed : h.setUpKept.2 = .error error) : h.setUpKept.1.setup = h.setup := by
  rcases setUpKept_cases failed with ⟨faults, wrong, -⟩ | ⟨config, made, unknown, -⟩
  · rw [setUpKept_of_error wrong]
  · rw [setUpKept_of_unknown made unknown]
    rfl

/-- A set-up that fails leaves the host as it is, unless it has made settings. -/
theorem host_of_failed (failed : h.setUpKept.2 = .error error)
    (unmade : (∃ faults, error = .invalid faults) ∨ h.kept ≠ none) : h.setUpKept.1 = h := by
  rcases setUpKept_cases failed with ⟨faults, wrong, -⟩ | ⟨config, made, unknown, rfl⟩
  · rw [setUpKept_of_error wrong]
  · rw [setUpKept_of_unknown made unknown]
    rcases unmade with ⟨faults, wrong⟩ | kept
    · cases wrong
    · obtain ⟨k, hk⟩ := Option.ne_none_iff_exists'.1 kept
      exact keeping_of_kept hk

/-- A set-up that fails by settings leaves them kept, whether it has made them or not. -/
theorem config_of_failed (failed : h.setUpKept.2 = .error (.threshold e)) :
    ∃ config, h.setUpKept.1.kept.map Kept.config = some config ∧ Log.threshold? config.logLevel = none ∧
      e = ⟨config.serviceName, config.logLevel⟩ := by
  rcases setUpKept_cases failed with ⟨faults, -, same⟩ | ⟨config, made, unknown, same⟩
  · cases same
  · cases same
    refine ⟨config, ?_, unknown, rfl⟩
    rw [setUpKept_of_unknown made unknown, keeping]
    cases kept : h.kept with
    | none => rfl
    | some k =>
      rw [settings_of_kept kept] at made
      cases made
      rfl

theorem reply_setUp (h : Host) :
    (h.turn (.setUp none)).reply = .ok (.setUp h.setUpKept.2 h.setUpKept.1.setup) := rfl

theorem host_setUp (h : Host) : (h.turn (.setUp none)).host = h.setUpKept.1 := rfl

theorem reply_setUp_of_unknown (made : h.settings = .ok config) (unknown : Log.threshold? config.logLevel = none) :
    (h.turn (.setUp none)).reply =
      .ok (.setUp (.error (.threshold ⟨config.serviceName, config.logLevel⟩)) h.setup) := by
  rw [reply_setUp, setUpKept_of_unknown made unknown]
  rfl

theorem reply_setUp_of_known {level : Nat} (made : h.settings = .ok config)
    (known : Log.threshold? config.logLevel = some level) :
    (h.turn (.setUp none)).reply = .ok (.setUp (.ok ((h.kept.bind Kept.number).getD h.numbered.length))
      ⟨some (if config.jsonLogs then .json else .console),
        if h.setup.isConfigured then h.setup.threshold else level⟩) := by
  rw [reply_setUp, (setUpKept_of_known made known).1, (setUpKept_of_known made known).2]

theorem reply_setUp_eq_unknown_iff (unknown : Log.threshold? e.name = none) :
    (h.turn (.setUp none)).reply = .ok (.setUp (.error (.threshold e)) h.setup) ↔
      ∃ config, h.settings = .ok config ∧ config.serviceName = e.service ∧ config.logLevel = e.name := by
  constructor
  · intro told
    rw [reply_setUp, Except.ok.injEq, Reply.setUp.injEq] at told
    rcases setUpKept_cases told.1 with ⟨faults, -, same⟩ | ⟨config, made, -, same⟩
    · cases same
    · cases same
      exact ⟨config, made, rfl, rfl⟩
  · rintro ⟨config, made, service, name⟩
    rw [reply_setUp_of_unknown made (by rw [name, unknown]), service, name]

end Failure

/-- A set-up that fails does not change how the process logs. If it fails because settings cannot be made, or by
settings that were kept before, then it leaves the host as it was, so that in any other surroundings a set-up comes to
the same as without it. If it fails by settings that it has made and that give the name of no threshold, these are kept:
a set-up in any other surroundings fails in the same way, which is what it would have come to anyway exactly if these
surroundings give the same service and the same name, and so does every set-up until the settings are forgotten. -/
theorem setUp_after_failed (h : Host) (e₁ e₂ : Surroundings) (error : StepError) (setup : Log.Setup)
    (failed : ((h.within e₁).turn (.setUp none)).reply = .ok (.setUp (.error error) setup)) :
    let left := ((h.within e₁).turn (.setUp none)).host
    let again := ((left.within e₂).turn (.setUp none)).reply
    let without := ((h.within e₂).turn (.setUp none)).reply
    setup = h.setup ∧ left.setup = h.setup ∧
      ((∃ faults, error = .invalid faults) ∨ ∃ e, error = .threshold e) ∧
      ((∃ faults, error = .invalid faults) ∨ h.kept ≠ none → left.within e₂ = h.within e₂ ∧ again = without) ∧
      ∀ e, error = .threshold e → h.kept = none →
        again = .ok (.setUp (.error error) setup) ∧
          (again = without ↔ ∃ config, Config.ofSources .empty e₂ = .ok config ∧
            config.serviceName = e.service ∧ config.logLevel = e.name) ∧
          ∀ steps, .forget ∉ steps → ((left.after steps).turn (.setUp none)).reply =
            .ok (.setUp (.error error) (left.after steps).setup) := by
  intro left again without
  rw [reply_setUp, Except.ok.injEq, Reply.setUp.injEq] at failed
  obtain ⟨failed, rfl⟩ := failed
  have unset : left.setup = h.setup := setup_of_failed failed
  refine ⟨unset, unset, ?_, fun unmade => ?_, ?_⟩
  · rcases setUpKept_cases failed with ⟨faults, -, same⟩ | ⟨config, -, -, same⟩
    · exact Or.inl ⟨faults, same⟩
    · exact Or.inr ⟨_, same⟩
  · have untouched : left = h.within e₁ := host_of_failed failed unmade
    have same : left.within e₂ = h.within e₂ := by
      rw [untouched]
      rfl
    exact ⟨same, congrArg (fun host => (host.turn (.setUp none)).reply) same⟩
  · -- settings that are kept count in any surroundings, and over any steps that do not forget them
    rintro e rfl fresh
    obtain ⟨config, keeps, unknown, rfl⟩ := config_of_failed failed
    have repeated : again =
        .ok (.setUp (.error (.threshold ⟨config.serviceName, config.logLevel⟩)) (left.within e₂).setup) :=
      reply_setUp_of_unknown (settings_of_config keeps) unknown
    have anyway := reply_setUp_eq_unknown_iff (h := h.within e₂) (e := ⟨config.serviceName, config.logLevel⟩) unknown
    rw [settings_of_none (h := h.within e₂) fresh] at anyway
    refine ⟨repeated, ?_, fun steps remembers => ?_⟩
    · rw [repeated, eq_comm]
      show without = .ok (.setUp _ left.setup) ↔ _
      rw [unset]
      exact anyway
    · exact reply_setUp_of_unknown (settings_of_config (config_after keeps remembers)) unknown

/-- A set-up that failed because a truth value was none comes to what it would have come to without that, as soon as the
environment gives a truth value; but a set-up that failed because there is no threshold of its name fails again. -/
theorem setUp_after_failed_twice :
    let maybe : Surroundings := ⟨.ofPairs [("DECISIONTREE_JSON_LOGS", "maybe")], []⟩
    let verbose : Surroundings := ⟨.ofPairs [("DECISIONTREE_LOG_LEVEL", "verbose")], []⟩
    let no : Surroundings := ⟨.ofPairs [("DECISIONTREE_JSON_LOGS", "no")], []⟩
    let wrong := (initial.within maybe).turn (.setUp none)
    let unknown := (initial.within verbose).turn (.setUp none)
    wrong.reply = .ok (.setUp (.error (.invalid [⟨"json_logs", .unknownBoolean⟩])) .initial) ∧
      ((wrong.host.within no).turn (.setUp none)).reply = .ok (.setUp (.ok 0) ⟨some .console, 20⟩) ∧
      unknown.reply = .ok (.setUp (.error (.threshold ⟨"decisiontree", "verbose"⟩)) .initial) ∧
      ((unknown.host.within no).turn (.setUp none)).reply = unknown.reply := by
  intro maybe verbose no wrong unknown
  have faults : Config.ofSources .empty maybe = .error [⟨"json_logs", .unknownBoolean⟩] := by
    simp only [maybe, Config.ofSources, given_environment]
    rfl
  have config : Config.ofSources .empty no = .ok ⟨"local", "decisiontree", "info", false⟩ := by
    simp only [no, Config.ofSources, given_environment]
    rfl
  have config' : Config.ofSources .empty verbose = .ok ⟨"local", "decisiontree", "verbose", true⟩ := by
    simp only [verbose, Config.ofSources, given_environment]
    rfl
  have told : wrong.reply = .ok (.setUp (.error (.invalid [⟨"json_logs", .unknownBoolean⟩])) .initial) := by
    rw [reply_setUp, setUpKept_of_error (h := initial.within maybe) faults]
    rfl
  have told' : unknown.reply = .ok (.setUp (.error (.threshold ⟨"decisiontree", "verbose"⟩)) .initial) :=
    reply_setUp_of_unknown (h := initial.within verbose) config' (by decide)
  have without : ((initial.within no).turn (.setUp none)).reply = .ok (.setUp (.ok 0) ⟨some .console, 20⟩) :=
    reply_setUp_of_known (h := initial.within no) config (by decide)
  obtain ⟨-, -, -, untouched, -⟩ := setUp_after_failed initial maybe no _ _ told
  obtain ⟨-, -, -, -, keeps⟩ := setUp_after_failed initial verbose no _ _ told'
  refine ⟨told, (untouched (Or.inl ⟨_, rfl⟩)).2.trans without, told', ?_⟩
  exact (keeps _ rfl rfl).1.trans told'.symm

/-- A set-up that fails for want of a threshold of its name fails again when the environment names a threshold with
which a set-up succeeds if the failed one was never tried. -/
theorem setUp_fails_again :
    let verbose : Surroundings := ⟨.ofPairs [("DECISIONTREE_LOG_LEVEL", "verbose")], []⟩
    let debug : Surroundings := ⟨.ofPairs [("DECISIONTREE_LOG_LEVEL", "debug")], []⟩
    let failed := (initial.within verbose).turn (.setUp none)
    let again := ((failed.host.within debug).turn (.setUp none)).reply
    let without := ((initial.within debug).turn (.setUp none)).reply
    failed.reply = .ok (.setUp (.error (.threshold ⟨"decisiontree", "verbose"⟩)) .initial) ∧
      again = .ok (.setUp (.error (.threshold ⟨"decisiontree", "verbose"⟩)) .initial) ∧
      without = .ok (.setUp (.ok 0) ⟨some .json, 10⟩) ∧ again ≠ without := by
  intro verbose debug failed again without
  have made : Config.ofSources .empty verbose = .ok ⟨"local", "decisiontree", "verbose", true⟩ := by
    simp only [verbose, Config.ofSources, given_environment]
    rfl
  have made' : Config.ofSources .empty debug = .ok ⟨"local", "decisiontree", "debug", true⟩ := by
    simp only [debug, Config.ofSources, given_environment]
    rfl
  have unknown : Log.threshold? "verbose" = none := by decide
  have told : failed.reply = .ok (.setUp (.error (.threshold ⟨"decisiontree", "verbose"⟩)) .initial) :=
    reply_setUp_of_unknown (h := initial.within verbose) made unknown
  have kept : (failed.host.within debug).settings = .ok ⟨"local", "decisiontree", "verbose", true⟩ := by
    rw [host_setUp, setUpKept_of_unknown (h := initial.within verbose) made unknown]
    rfl
  have setup : (failed.host.within debug).setup = .initial := by
    rw [host_setUp, setUpKept_of_unknown (h := initial.within verbose) made unknown]
    rfl
  have repeated : again = .ok (.setUp (.error (.threshold ⟨"decisiontree", "verbose"⟩)) .initial) := by
    rw [← setup]
    exact reply_setUp_of_unknown kept unknown
  have succeeds : without = .ok (.setUp (.ok 0) ⟨some .json, 10⟩) :=
    reply_setUp_of_known (h := initial.within debug) made' (by decide)
  refine ⟨told, repeated, succeeds, ?_⟩
  rw [repeated, succeeds]
  nofun

end Host

end Rulebook.Settings

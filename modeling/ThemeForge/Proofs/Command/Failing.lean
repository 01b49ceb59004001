import ThemeForge.Platform
import ThemeForge.Proofs.Command.Startup

/-!
# Bad configurations

Every command takes the settings first, and answers a bad configuration in the same way; but some
configurations go past that answer, and with some the program ends before it reads its command line.

* `Configuration.exists_cause`: what is wrong where settings cannot be loaded;
* `ProgramCall.perform_of_bad`, `ProgramCall.perform_of_unready`: the two ends of a command;
* **`settings_answer`**: which configurations are answered, and how;
* **`settings_overlay_fault`**: two that are not.
-/

namespace ThemeForge

open ThemeForge.Configuration

section Libraries

variable [Format]

/-- What cannot be loaded, cannot be read or does not fit the schema. -/
theorem Configuration.exists_cause {fs : FileSystem} {environment : Variables} {e : Failure}
    (h : load? fs environment = .error e) :
    read? fs environment = .error e ∨ ∃ f, e = .configuration f := by
  rcases Except.bind_eq_error_iff.mp h with h | ⟨m, -, h⟩
  · exact .inl h
  · obtain ⟨ps, -, rfl⟩ := Except.mapError_eq_error_iff.mp h
    exact .inr ⟨_, rfl⟩

namespace ProgramCall

variable [Template.Engine] [Terminal] {c : ProgramCall} {fs : FileSystem}

/-- If logging can be set up, every command answers a bad configuration. -/
theorem perform_of_bad {command : Command}
    (hcommand : (Invocation.read fs c.words).intent = .command command)
    {f : Failure.Configuration} (hload : load? fs c.environment = .error (.configuration f))
    (hlevel : NamesLevel fs c.environment) :
    (c.perform fs).outcome = .ok 1 ∧ (c.perform fs).session.world.files = fs ∧
    (c.perform fs).session.world.console = (Console.typing c.input).report
      (Terminal.layout .errors (Text.concat ["Configuration error: ", f.message])) := by
  have hloadable : IsLoadable fs c.environment := by
    rw [← isAnswer_load?_iff, hload]
    exact isAnswer_configuration f
  obtain ⟨report, hreport⟩ := exists_ready_iff.mpr ⟨hloadable, hlevel⟩
  have hsettings : Run.settings.result { (c.ready fs).session.world with log := [] } =
      (.error (.configuration f), { (c.ready fs).session.world with log := [] }) := by
    rw [ready_session, ← hload]
    exact Run.result_settings_loaded rfl
  have hrun : (Invocation.read fs c.words).run = command.run false := by
    rw [Invocation.run, hcommand]
  rw [perform_of_ok hreport, hrun, Session.performAt_of_result
    (Command.result_run_of_settings_error hsettings command false)]
  refine ⟨rfl, ?_, ?_⟩
  · simp only [ready_session]
    rfl
  · simp only [ready_session]
    rfl

/-- If logging cannot be set up, the program ends. -/
theorem perform_of_unready {f : Failure} (h : (c.ready fs).outcome = .error f) :
    (c.perform fs).outcome = .error f ∧ (c.perform fs).session.world.files = fs ∧
    (c.perform fs).session.world.console = .typing c.input := by
  rw [perform_of_error h]
  refine ⟨rfl, ?_, ?_⟩
  · rw [ready_session]
    rfl
  · rw [ready_session]
    rfl

/-- If the configuration cannot be loaded in an orderly way, logging cannot be set up either. -/
theorem perform_of_unhandled {u : Failure.Unhandled}
    (h : load? fs c.environment = .error (.unhandled u)) :
    (c.perform fs).outcome = .error (.unhandled u) ∧ (c.perform fs).session.world.files = fs ∧
    (c.perform fs).session.world.console = .typing c.input := by
  have hread := (exists_cause h).resolve_right fun h => nomatch h.choose_spec
  have hword : word? fs c.environment = .error (.unhandled u) := by
    rw [word?, hread]
  refine perform_of_unready ?_
  rw [ready_outcome, Run.result_setUpLogging]
  change word? fs c.environment >>= _ = _
  rw [hword]
  rfl

end ProgramCall

/-- **Which configurations are answered.** Nothing being kept, taking the settings gives them or
says what is wrong with the configuration, exactly if the file is a text on which its reader does
not fail and each override finds a section that holds entries; nothing handles what happens
otherwise. **The program answers a bad configuration, whatever the command, with a line about it and
the exit code 1**, provided that it names no level that keeps logging from being set up; otherwise
it ends with a failure that nothing handles. In any case it touches no file. -/
theorem settings_answer [Template.Engine] [Terminal] {w : World} (hkept : w.configuration = none) :
    let o := (Run.settings.result w).1
    (IsAnswer o ↔ IsLoadable w.files w.environment) ∧
    (¬ IsAnswer o → ∃ f, o = .error (.unhandled f)) ∧
    ∀ (words : List Text) (input : Text) (c : Command),
      (Invocation.read w.files words).intent = .command c →
      let p := ProgramCall.perform ⟨words, input, w.environment⟩ w.files
      (∀ f, o = .error (.configuration f) → NamesLevel w.files w.environment →
        p.outcome = .ok 1 ∧ p.session.world.files = w.files ∧
        p.session.world.console = (Console.typing input).report
          (Terminal.layout .errors (Text.concat ["Configuration error: ", f.message]))) ∧
      (∀ f, o = .error (.configuration f) → ¬ NamesLevel w.files w.environment →
        ∃ u, p.outcome = .error (.unhandled u) ∧ p.session.world.files = w.files ∧
          p.session.world.console = .typing input) ∧
      ∀ u, o = .error (.unhandled u) → p.outcome = .error (.unhandled u) ∧
        p.session.world.files = w.files ∧ p.session.world.console = .typing input := by
  intro o
  have ho : o = load? w.files w.environment := congrArg Prod.fst (Run.result_settings hkept)
  rw [ho]
  refine ⟨isAnswer_load?_iff _ _, exists_of_not_isAnswer_load?, fun words input c hc => ?_⟩
  let call : ProgramCall := ⟨words, input, w.environment⟩
  refine ⟨fun f hf hlevel => ProgramCall.perform_of_bad hc hf hlevel, fun f hf hlevel => ?_,
    fun u hu => ProgramCall.perform_of_unhandled (c := call) hu⟩
  rcases hready : (call.ready w.files).outcome with e | report
  · obtain ⟨u, rfl⟩ := Run.exists_of_setUpLogging_eq_error hready
    exact ⟨u, ProgramCall.perform_of_unready hready⟩
  · exact absurd (ProgramCall.exists_ready_iff.mp ⟨report, hready⟩).2 hlevel

end Libraries

/-- A section given as a list of pairs, with an override that it can take. -/
theorem settings_answer_pairs :
    let w := configuredWorld "logging: [[level, 5], \"ab\"]" [("THEMEKIT_LOG_LEVEL", "debug")]
    w.configuration = none ∧ (Run.settings.result w).1 = .ok { logging := ⟨"debug"⟩ } ∧
    IsLoadable w.files w.environment := by
  intro w
  have hload : (Run.settings.result w).1 = .ok { logging := ⟨"debug"⟩ } := by decide +kernel
  refine ⟨rfl, hload, (settings_answer rfl).1.mp ?_⟩
  rw [hload]
  exact isAnswer_ok _

/-- **A section of another kind cannot take an override, and a date that is none has no value**:
either goes past the answer to a bad configuration, and ends the program. -/
theorem settings_overlay_fault :
    let w := configuredWorld "logging: 5" [("THEMEKIT_LOG_LEVEL", "debug")]
    let v := configuredWorld "released: 2001-13-45" []
    let misfit : Failure := .unhandled (.overlay (.notIterable "int"))
    let noDate : Failure := .unhandled (.crash ⟨"ValueError", "month must be in 1..12"⟩)
    let listed (w : World) := ProgramCall.perform ⟨["list-templates"], [], w.environment⟩ w.files
    (Run.settings.result w).1 = .error misfit ∧ ¬ IsAnswer (Run.settings.result w).1 ∧
    (listed w).outcome = .error misfit ∧
    (Run.settings.result v).1 = .error noDate ∧ ¬ IsAnswer (Run.settings.result v).1 ∧
    (listed v).outcome = .error noDate := by
  intro w v misfit noDate listed
  have hresult (w : World) (h : w.configuration = none) :
      (Run.settings.result w).1 = load? w.files w.environment :=
    congrArg Prod.fst (Run.result_settings h)
  have hw : load? w.files w.environment = .error misfit := by decide +kernel
  have hv : load? v.files v.environment = .error noDate := by decide +kernel
  have hlisted {w : World} {u : Failure.Unhandled}
      (h : load? w.files w.environment = .error (.unhandled u)) :
      (listed w).outcome = .error (.unhandled u) :=
    (ProgramCall.perform_of_unhandled (c := ⟨["list-templates"], [], w.environment⟩) h).1
  rw [hresult w rfl, hresult v rfl, hw, hv]
  exact ⟨rfl, not_isAnswer_unhandled _, hlisted hw, rfl, not_isAnswer_unhandled _, hlisted hv⟩

end ThemeForge

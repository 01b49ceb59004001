import ThemeForge.Command.Call
import ThemeForge.Proofs.Command.Outcome
import ThemeForge.Proofs.Log.SetUp

/-!
# The start of the program

A call sets logging up before it reads its command line, and ends there if that fails. The
configuration that has been loaded for it is kept.

* `ProgramCall.ready`: a call once logging has been set up;
* `ProgramCall.exists_ready_iff`, `ProgramCall.ready_session`: when there is one, and what is left;
* `ProgramCall.perform_of_error`, `ProgramCall.perform_of_ok`: a call, by how it starts;
* `Run.result_settings_loaded`: the settings after the start;
* `Session.performAt_of_result`: a run in a session.
-/

namespace ThemeForge

open ThemeForge.Configuration

/-- It makes no difference to the settings that the configuration has been loaded before. -/
theorem Run.result_settings_loaded [Format] {w : World}
    (h : w.configuration = (read? w.files w.environment).toOption) :
    result settings w = (load? w.files w.environment, w) := by
  unfold load?
  cases hread : read? w.files w.environment with
  | error f =>
    rw [hread] at h
    rw [result_settings h, load?, hread]
    cases w
    cases h
    rfl
  | ok m =>
    rw [hread] at h
    exact result_settings_kept h

/-- What a run comes to in a session. -/
theorem Session.performAt_of_result {α : Type} {s : Session} {act : Run α}
    {o : Except Failure α} {w : World} (h : act.result { s.world with log := [] } = (o, w))
    (level : Int) : s.performAt level act =
      ⟨o, w.log.filter (LogRecord.isVisible level), { s with world := { w with log := [] } }⟩ := by
  unfold performAt
  rw [show act.run.run { s.world with log := [] } = (o, w) from h]

namespace ProgramCall

variable [Format] {c : ProgramCall} {fs : FileSystem}

/-- A call once logging has been set up from the configuration. -/
def ready (c : ProgramCall) (fs : FileSystem) : Performed LoggingReport :=
  (c.session fs).perform (Run.setUpLogging ⟨LogLevel.info, 0, false, []⟩ logger [])

theorem ready_outcome : (c.ready fs).outcome =
    ((Run.setUpLogging ⟨LogLevel.info, 0, false, []⟩ logger []).result (c.session fs).world).1 :=
  rfl

/-- The start leaves the configuration, if it can be loaded. -/
theorem ready_session : (c.ready fs).session.world =
    { (c.session fs).world with configuration := (read? fs c.environment).toOption } := by
  have hresult := Run.result_setUpLogging ⟨LogLevel.info, 0, false, []⟩ logger (c.session fs).world
  change { ((Run.setUpLogging _ logger []).result (c.session fs).world).2 with log := [] } = _
  rw [hresult]
  rfl

theorem exists_ready_iff : (∃ report, (c.ready fs).outcome = .ok report) ↔
    IsLoadable fs c.environment ∧ NamesLevel fs c.environment :=
  Run.exists_setUpLogging_iff rfl logger (c.session fs).world

variable [Template.Engine] [Terminal]

theorem perform_of_error {f : Failure} (h : (c.ready fs).outcome = .error f) :
    c.perform fs = ⟨.error f, (c.ready fs).records, (c.ready fs).session⟩ := by
  unfold perform
  change (c.ready fs).outcome = _ at h
  unfold ready at h ⊢
  simp only [h]

theorem perform_of_ok {report : LoggingReport} (h : (c.ready fs).outcome = .ok report) :
    let i := Invocation.read fs c.words
    let p := (c.ready fs).session.performAt (i.level report.level) i.run
    c.perform fs = { p with records := report.root.written ++ p.records } := by
  intro i p
  unfold perform
  unfold ready at h
  simp only [h]
  rfl

end ProgramCall

end ThemeForge

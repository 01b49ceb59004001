import ThemeForge.Proofs.Command.Effect
import ThemeForge.Proofs.Command.Startup

/-!
# Details in the log

The option for details sets the level of logging and does nothing else. A command line comes to the
same with it and without it; and since no record is below the level of details, those that are shown
without it are found among those that are shown with it.

* `World.Logs`: what is added to the log, which is nothing below the level of details;
  `Invocation.logs_run`: every command line only adds such records;
* `Session.records_performAt`, `Session.written_performAt`: what is shown at a level;
* `Invocation.read_debug_cases`: the option in front of a command line;
* **`invocation_details`**: what the option changes in a session, whatever the level before;
* **`ProgramCall.perform_debug`**: the same of the whole program, with the level of the
  configuration.
-/

namespace ThemeForge

/-! ## Runs that add to the log -/

/-- The log has grown by records of at least the level of details. -/
def World.Logs (w w' : World) : Prop :=
  ∃ records, w'.log = w.log ++ records ∧ ∀ r ∈ records, LogLevel.debug ≤ r.level

namespace World.Logs

variable {w w' w'' : World}

theorem of_log_eq (h : w'.log = w.log) : Logs w w' :=
  ⟨[], by rw [h, List.append_nil], fun _ hr => absurd hr List.not_mem_nil⟩

theorem add {record : LogRecord} (h : w'.log = w.log ++ [record])
    (hlevel : LogLevel.debug ≤ record.level) : Logs w w' :=
  ⟨[record], h, List.forall_mem_singleton.mpr hlevel⟩

theorem trans (h : Logs w w') (h' : Logs w' w'') : Logs w w'' := by
  obtain ⟨records, hlog, hlevel⟩ := h
  obtain ⟨records', hlog', hlevel'⟩ := h'
  refine ⟨records ++ records', by rw [hlog', hlog, List.append_assoc], ?_⟩
  exact List.forall_mem_append.mpr ⟨hlevel, hlevel'⟩

theorem coversLooking [Template.Engine] : CoversLooking Logs where
  refl _ := of_log_eq rfl
  trans := trans
  note _ _ hlevel := add rfl hlevel
  find _ _ := of_log_eq rfl
  expand _ _ _ := of_log_eq rfl

theorem coversTalking [Template.Engine] : CoversTalking Logs where
  toCoversLooking := coversLooking
  talk _ _ := of_log_eq rfl
  load _ _ := of_log_eq rfl
  restore h := h

theorem coversWriting [Template.Engine] : CoversWriting Logs where
  toCoversLooking := coversLooking
  write _ _ := of_log_eq rfl
  register _ _ := of_log_eq rfl

end World.Logs

/-- **No command line logs anything below the level of details**, or takes back what is logged. -/
theorem Invocation.logs_run [Template.Engine] [Configuration.Format] [Terminal] (i : Invocation)
    (diskFull : Bool) :
    Run.IsCovered World.Logs (i.run diskFull) := by
  unfold run
  cases i.intent with
  | misuse => exact World.Logs.coversLooking.refl
  | help => exact World.Logs.coversLooking.refl
  | command c => exact c.isCovered_run World.Logs.coversTalking World.Logs.coversWriting diskFull

/-! ## What is shown -/

namespace Session

variable (s : Session)

/-- What a command line does in a session, the level of logging being given. -/
def invoke [Template.Engine] [Configuration.Format] [Terminal] (level : Int) (words : List Text)
    (diskFull : Bool := false) : Performed Nat :=
  let i := Invocation.read s.world.files words
  s.performAt (i.level level) (i.run diskFull)

/-- What is shown at a level is what is shown at the level of details, less the records below. -/
theorem records_performAt {α : Type} {act : Run α} (h : Run.IsCovered World.Logs act)
    (level : Int) : (s.performAt level act).records =
      (s.performAt LogLevel.debug act).records.filter fun r => level ≤ r.level := by
  obtain ⟨records, hlog, hlevel⟩ := h { s.world with log := [] }
  change (act.result _).2.log.filter _ = ((act.result _).2.log.filter _).filter _
  rw [hlog, List.nil_append, List.filter_filter]
  refine List.filter_congr fun r hr => ?_
  have hdetails : (10 : Int) ≤ r.level := hlevel r hr
  have hpositive : 0 < r.level := by omega
  simp [LogRecord.isVisible, LogLevel.debug, hdetails, hpositive]

/-- What is shown at a level is what the root logger writes of the records while its level is that
one. -/
theorem written_performAt {α : Type} (act : Run α) (root : RootLogger) :
    ((act.result { s.world with log := [] }).2.log.foldl RootLogger.write root).written =
      root.written ++ (s.performAt root.level act).records :=
  RootLogger.written_foldl_write root _

end Session

/-! ## The option for details -/

namespace Invocation

open Options

variable (fs : FileSystem) (words : List Text)

theorem read?_debug : read? rules ("--debug" :: words) =
    (read? rules words).map fun p => ((.debug, []) :: p.1, p.2) := by
  have hword : word? rules "--debug" = some ⟨[(.debug, [])], none⟩ := by decide
  rw [read?, if_neg (by decide), if_pos (by decide), hword]
  rfl

/-- The option changes nothing about what is asked for, and details are logged if that is more than
help. -/
theorem read_debug_cases :
    (∃ intent, read fs words = ⟨false, intent⟩ ∧ read fs ("--debug" :: words) = ⟨false, intent⟩ ∧
      (intent = .misuse ∨ intent = .help)) ∨
    ∃ isDebug intent, read fs words = ⟨isDebug, intent⟩ ∧
      read fs ("--debug" :: words) = ⟨true, intent⟩ := by
  have hhelp (os : List Given) : has .help ((.debug, []) :: os) = has .help os := rfl
  have hdebug (os : List Given) : has .debug ((.debug, []) :: os) = true := rfl
  unfold read
  rw [read?_debug]
  rcases read? rules words with _ | ⟨os, as⟩
  · exact .inl ⟨_, rfl, rfl, .inl rfl⟩
  simp only [Option.map_some, hhelp, hdebug]
  split
  · exact .inl ⟨_, rfl, rfl, .inr rfl⟩
  cases as with
  | nil => exact .inl ⟨_, rfl, rfl, .inl rfl⟩
  | cons name rest =>
    simp only
    split
    · exact .inr ⟨_, _, rfl, rfl⟩
    · exact .inl ⟨_, rfl, rfl, .inl rfl⟩

/-- A line that starts with a word that is no option, such as the name of a command, does not ask
for details. -/
theorem isDebug_read_cons {name : Text} (h : isOption name = false) (rest : List Text) :
    (read fs (name :: rest)).isDebug = false := by
  have hname : name ≠ "--" := by
    rintro rfl
    exact nomatch h
  have hread : read? rules (name :: rest) = some ([], name :: rest) := by
    rw [read?, if_neg hname, h, if_neg Bool.false_ne_true]
    rfl
  unfold read
  rw [hread]
  simp only
  split
  · rfl
  · split <;> rfl

theorem level_of_not_isDebug {i : Invocation} (h : i.isDebug = false) (before : Int) :
    i.level before = before := by
  rw [level, h, if_neg Bool.false_ne_true]

variable [Template.Engine] [Configuration.Format] [Terminal]

theorem run_read_debug (diskFull : Bool) :
    (read fs ("--debug" :: words)).run diskFull = (read fs words).run diskFull := by
  rcases read_debug_cases fs words with ⟨intent, h, h', -⟩ | ⟨isDebug, intent, h, h'⟩
  · rw [h, h']
  · rw [h, h']
    rfl

/-- With the option, the level from before does not matter. -/
theorem records_read_debug (s : Session) (level : Int) (diskFull : Bool) :
    let i := read fs ("--debug" :: words)
    (s.performAt (i.level level) (i.run diskFull)).records =
      (s.performAt LogLevel.debug (i.run diskFull)).records := by
  intro i
  rcases read_debug_cases fs words with ⟨intent, -, h, hintent⟩ | ⟨isDebug, intent, -, h⟩
  · -- nothing is logged at all
    rw [show i = _ from h]
    rcases hintent with rfl | rfl <;> rfl
  · rw [show i = _ from h]
    rfl

end Invocation

open Invocation

/-- **The option for details changes the log and nothing else.** For every command line that does
not ask for details anyway, every session (its files, its variables, its configuration and what is
typed) and every level of logging, the line comes to the same with the option in front of it: the
outcome, all that is printed and reported, and the files afterwards. What is logged without it is
exactly what is logged with it and is not below that level, in the same order; and with it, the
level from before does not matter. -/
theorem invocation_details [Template.Engine] [Configuration.Format] [Terminal] (s : Session)
    {words : List Text} (hwords : (Invocation.read s.world.files words).isDebug = false)
    (level : Int) (diskFull : Bool) :
    let plain := s.invoke level words diskFull
    let detailed := s.invoke level ("--debug" :: words) diskFull
    detailed.outcome = plain.outcome ∧ detailed.session = plain.session ∧
    plain.records = detailed.records.filter (fun r => level ≤ r.level) ∧
    ∀ before, (s.invoke before ("--debug" :: words) diskFull).records = detailed.records := by
  have hrun := run_read_debug s.world.files words diskFull
  have hplain : s.invoke level words diskFull =
      s.performAt level ((Invocation.read s.world.files words).run diskFull) := by
    rw [Session.invoke, level_of_not_isDebug hwords]
  have hdetailed (before : Int) : (s.invoke before ("--debug" :: words) diskFull).records =
      (s.performAt LogLevel.debug
        ((Invocation.read s.world.files words).run diskFull)).records := by
    rw [← hrun]
    exact records_read_debug _ _ s before diskFull
  intro plain detailed
  refine ⟨?_, ?_, ?_, fun before => (hdetailed before).trans (hdetailed level).symm⟩
  · rw [show plain = _ from hplain, ← hrun]
    rfl
  · rw [show plain = _ from hplain, ← hrun]
    rfl
  · rw [show plain = _ from hplain, show detailed.records = _ from hdetailed level]
    exact s.records_performAt (logs_run _ diskFull) level

/-- A theme that bears the name of the option: four records give way to one. -/
theorem invocation_details_name :
    let s : Session := { world := sampleWorld "tpl" }
    let words : List Text := ["new-theme", "-n", "--debug"]
    let plain := s.invoke LogLevel.info words
    let detailed := s.invoke LogLevel.info ("--debug" :: words)
    (Invocation.read s.world.files words).isDebug = false ∧ plain.outcome = .ok 0 ∧
    detailed.outcome = .ok 0 ∧ detailed.session.world.console.output =
      "✅ Created theme file: --debug.theme.json\n" ∧
    detailed.records.map LogRecord.level = [10, 10, 20, 10] ∧
    plain.records.map LogRecord.level = [20] := by
  intro s words plain detailed
  have hwords : (Invocation.read s.world.files words).isDebug = false :=
    isDebug_read_cons _ (by decide) _
  have hplain : s.invoke LogLevel.info words = plain := rfl
  have hdetailed : s.invoke LogLevel.info ("--debug" :: words) = detailed := rfl
  have hrun : (s.invoke LogLevel.info ("--debug" :: words)).outcome = .ok 0 ∧
      (s.invoke LogLevel.info ("--debug" :: words)).session.world.console.output =
        "✅ Created theme file: --debug.theme.json\n" ∧
      (s.invoke LogLevel.info ("--debug" :: words)).records.map LogRecord.level =
        [10, 10, 20, 10] := by
    decide +kernel
  have hagree := invocation_details s hwords LogLevel.info false
  simp only [hplain, hdetailed] at hrun hagree
  -- the runs are not to be compared by what they come to
  clear_value plain detailed
  obtain ⟨hok, houtput, hlevels⟩ := hrun
  obtain ⟨houtcome, -, hrecords, -⟩ := hagree
  refine ⟨hwords, houtcome.symm.trans hok, hok, houtput, hlevels, ?_⟩
  calc plain.records.map LogRecord.level
    _ = (detailed.records.filter fun r => LogLevel.info ≤ r.level).map LogRecord.level := by
      rw [hrecords]
    _ = (detailed.records.map LogRecord.level).filter fun n => LogLevel.info ≤ n := by
      rw [List.filter_map]
      rfl
    _ = [20] := by
      rw [hlevels]
      rfl

/-! ## The whole program -/

/-- What the set-up writes is visible at the level that it sets. -/
theorem RootLogger.le_of_mem_written_ready {root : RootLogger} (hroot : root.written = [])
    {word : Text} {r : LogRecord} (hr : r ∈ (root.ready word).written) :
    (root.ready word).level ≤ r.level := by
  rw [ready, level_write]
  unfold ready write at hr
  split at hr
  · rename_i hvisible
    rw [hroot, List.nil_append, List.mem_singleton] at hr
    rw [LogRecord.isVisible, Bool.and_eq_true, decide_eq_true_eq, decide_eq_true_eq] at hvisible
    rw [hr]
    exact hvisible.2
  · rw [hroot] at hr
    exact absurd hr List.not_mem_nil

namespace ProgramCall

variable [Configuration.Format] {c : ProgramCall} {fs : FileSystem}

theorem le_of_mem_written {report : LoggingReport} (h : (c.ready fs).outcome = .ok report) :
    ∀ r ∈ report.root.written, report.level ≤ r.level := by
  obtain ⟨word, -, -, rfl⟩ := (Run.setUpLogging_eq_ok_iff rfl).mp h
  exact fun r hr => RootLogger.le_of_mem_written_ready rfl hr

/-- **The option for details does nothing else to the program.** The call ends in the same way, with
the same output and the same files; and if logging can be set up from the configuration, what is
shown without the option is what is shown with it and is not below the level of the
configuration. -/
theorem perform_debug [Template.Engine] [Terminal]
    (hwords : (Invocation.read fs c.words).isDebug = false) :
    let d : ProgramCall := { c with words := "--debug" :: c.words }
    (d.perform fs).outcome = (c.perform fs).outcome ∧
    (d.perform fs).session = (c.perform fs).session ∧
    ∀ report, (c.ready fs).outcome = .ok report →
      (c.perform fs).records = (d.perform fs).records.filter fun r => report.level ≤ r.level := by
  intro d
  have hrun := run_read_debug fs c.words false
  have hready : d.ready fs = c.ready fs := rfl
  cases h : (c.ready fs).outcome with
  | error f =>
    rw [perform_of_error h, perform_of_error (hready ▸ h), hready]
    exact ⟨rfl, rfl, fun report hreport => nomatch hreport⟩
  | ok report =>
    have hlevel := level_of_not_isDebug hwords report.level
    rw [perform_of_ok h, perform_of_ok (hready ▸ h), hready, hlevel]
    refine ⟨?_, ?_, fun report' hreport => ?_⟩
    · rw [← hrun]
      rfl
    · rw [← hrun]
      rfl
    · cases hreport
      have hwritten : report.root.written.filter (fun r => report.level ≤ r.level) =
          report.root.written :=
        List.filter_eq_self.mpr fun r hr => decide_eq_true (le_of_mem_written h r hr)
      have hdetailed := records_read_debug fs c.words (c.ready fs).session report.level false
      dsimp only at hdetailed ⊢
      rw [hdetailed, List.filter_append, hwritten, hrun,
        ← Session.records_performAt _ (logs_run _ false)]

end ProgramCall

end ThemeForge

import ThemeForge.Platform
import ThemeForge.Proofs.World.Configuration
import ThemeForge.Session.Basic

/-!
# Logging is set up

The level of logging is that of a configured word, and a bad configuration counts as none. There
are configurations all the same with which logging cannot be set up: those that cannot be loaded in
an orderly way, those whose section on logging holds no entries or names what cannot be written, and
two words that stand for something else than a level.

* `LogLevel.ofWord_of_mem`, `LogLevel.ofWord_of_forall_not_mem`: the level of a word;
* `RootLogger.setUp?_eq_ok_iff`: setting up for a word;
* `Configuration.HasLevelWord`, `Configuration.levelWord?_eq_ok_iff`: the word of a configuration;
  `Configuration.NamesLevel`: it may stand for a level;
* `Run.exists_setUpLogging_iff`, `Run.exists_of_setUpLogging_eq_error`: the two outcomes;
* **`setUpLogging_answer`**: when logging is set up, and how;
* **`setUpLogging_fault`**: three configurations with which it is not.
-/

namespace ThemeForge

/-! ## Words -/

namespace LogLevel

theorem ofWord_of_mem {word : Text} {level : Int} (h : (word, level) ∈ words) :
    ofWord word = level := by
  have hall : ∀ e ∈ words, ofWord e.1 = e.2 := by decide
  exact hall (word, level) h

theorem ofWord_of_forall_not_mem {word : Text} (h : ∀ level, (word, level) ∉ words) :
    ofWord word = info := by
  have hnone : words.lookup word = none := by
    refine List.lookup_eq_none_iff.mpr fun e he => ?_
    rw [bne_iff_ne]
    rintro rfl
    exact h e.2 he
  rw [ofWord, hnone, Option.getD_none]

end LogLevel

namespace RootLogger

variable (r : RootLogger) (record : LogRecord)

@[simp] theorem level_write : (r.write record).level = r.level := by
  unfold write
  split <;> rfl

@[simp] theorem handlers_write : (r.write record).handlers = r.handlers := by
  unfold write
  split <;> rfl

@[simp] theorem isSetUp_write : (r.write record).isSetUp = r.isSetUp := by
  unfold write
  split <;> rfl

/-- Writing keeps the level, so of several records those that are visible at it are written. -/
theorem written_foldl_write (records : List LogRecord) : (records.foldl write r).written =
    r.written ++ records.filter (LogRecord.isVisible r.level) := by
  induction records generalizing r with
  | nil => exact (List.append_nil _).symm
  | cons record records ih =>
    rw [List.foldl_cons, ih, level_write, List.filter_cons]
    unfold write
    split
    · rw [List.append_assoc, List.singleton_append]
    · rfl

/-- The word may stand for a level. -/
def IsLevelWord (word : Text) : Prop := word ≠ formatWord ∧ word ≠ stylesWord

instance (word : Text) : Decidable (IsLevelWord word) := inferInstanceAs (Decidable (_ ∧ _))

theorem levelOf?_eq_ok_iff {word : Text} {level : Int} :
    levelOf? word = .ok level ↔ IsLevelWord word ∧ LogLevel.ofWord word = level := by
  unfold levelOf? otherWords IsLevelWord
  rw [List.lookup_cons, List.lookup_cons, List.lookup_nil]
  by_cases hformat : word = formatWord
  · simp [hformat]
  · by_cases hstyles : word = stylesWord
    · simp [hstyles, show (stylesWord == formatWord) = false by decide]
    · simp [hformat, hstyles, beq_false_of_ne]

/-- The root logger after it has been set up for a word: whatever handlers there were, there is one
now, and the set-up is the first thing that is logged. -/
def ready (word : Text) : RootLogger :=
  ({ r with level := LogLevel.ofWord word, handlers := 1, isSetUp := true } : RootLogger).write
    (setUpRecord word)

variable {r}

theorem setUp?_eq_ok_iff (h : r.isSetUp = false) {word : Text} {r' : RootLogger} :
    r.setUp? word = .ok r' ↔ IsLevelWord word ∧ r' = r.ready word := by
  unfold setUp?
  rw [h, if_neg Bool.false_ne_true, Except.bind_eq_ok_iff]
  constructor
  · rintro ⟨level, hlevel, hready⟩
    obtain ⟨hword, rfl⟩ := levelOf?_eq_ok_iff.mp hlevel
    exact ⟨hword, (Except.ok.inj hready).symm⟩
  · rintro ⟨hword, rfl⟩
    exact ⟨_, levelOf?_eq_ok_iff.mpr ⟨hword, rfl⟩, rfl⟩

end RootLogger

/-! ## The configured word -/

namespace Configuration

open Value (Mapping)

section Format

variable [Format]

/-- The word for the level in a configuration: the default one unless a section on logging names
one, which is then taken in upper case and as it is written. -/
inductive HasLevelWord (m : Mapping) : Text → Prop
  | absent (h : ((m.getText? "logging").getD .null).isTruthy = false) :
    HasLevelWord m (Text.upper defaultLevel)
  | unnamed {entries : Mapping} (h : m.getText? "logging" = some (.mapping entries))
    (hnone : entries.getText? "level" = none) : HasLevelWord m (Text.upper defaultLevel)
  | named {entries : Mapping} {v : Value} (h : m.getText? "logging" = some (.mapping entries))
    (hv : entries.getText? "level" = some v) (hdepth : v.isWithin Format.maxDepth = true)
    (hwritable : v.isWritable = true) : HasLevelWord m (Text.upper v.plain)

theorem writtenWord?_eq_ok_iff {v : Value} {word : Text} : writtenWord? v = .ok word ↔
    v.isWithin Format.maxDepth = true ∧ v.isWritable = true ∧ Text.upper v.plain = word := by
  unfold writtenWord?
  cases v.isWithin Format.maxDepth <;> cases v.isWritable <;> simp

theorem exists_of_writtenWord?_eq_error {v : Value} {e : Failure} (h : writtenWord? v = .error e) :
    ∃ f, e = .unhandled f := by
  unfold writtenWord? at h
  split at h
  · cases h
    exact ⟨_, rfl⟩
  · split at h
    · cases h
      exact ⟨_, rfl⟩
    · exact nomatch h

theorem levelWord?_eq_ok_iff {m : Mapping} {word : Text} :
    levelWord? m = .ok word ↔ HasLevelWord m word := by
  unfold levelWord?
  constructor
  · intro h
    simp only at h
    split at h
    · rename_i hfalse
      cases h
      exact .absent (by simpa using hfalse)
    · rename_i htrue
      split at h
      · rename_i entries hentries
        have hsection : m.getText? "logging" = some (.mapping entries) :=
          (Option.getD_eq_iff.mp hentries).resolve_right fun h => nomatch h.2
        split at h
        · rename_i hnone
          cases h
          exact .unnamed hsection hnone
        · rename_i v hv
          obtain ⟨hdepth, hwritable, rfl⟩ := writtenWord?_eq_ok_iff.mp h
          exact .named hsection hv hdepth hwritable
      · exact nomatch h
  · intro h
    cases h with
    | absent h => simp [h]
    | unnamed h hnone =>
      -- without entries the section counts as false, with the same word
      rw [h]
      simp only [Option.getD_some, hnone]
      split <;> rfl
    | @named entries v h hv hdepth hwritable =>
      have htrue : (Value.mapping entries).isTruthy = true := by
        cases entries with
        | nil => exact nomatch hv
        | cons e entries => rfl
      have hword := writtenWord?_eq_ok_iff.mpr ⟨hdepth, hwritable, rfl⟩
      rw [h]
      simp [htrue, hv, hword]

/-- What is wrong with the word is handled by nothing. -/
theorem exists_of_levelWord?_eq_error {m : Mapping} {e : Failure} (h : levelWord? m = .error e) :
    ∃ f, e = .unhandled f := by
  unfold levelWord? at h
  simp only at h
  split at h
  · exact nomatch h
  · split at h
    · split at h
      · exact nomatch h
      · exact exists_of_writtenWord?_eq_error h
    · cases h
      exact ⟨_, rfl⟩

/-- The word for given files and variables; a bad configuration has the one for ordinary
messages. -/
def word? (fs : FileSystem) (environment : Variables) : Except Failure Text :=
  match read? fs environment with
  | .ok m => levelWord? m
  | .error (.configuration _) => .ok (LogLevel.name LogLevel.info)
  | .error f => .error f

theorem exists_of_word?_eq_error {fs : FileSystem} {environment : Variables} {e : Failure}
    (h : word? fs environment = .error e) : ∃ f, e = .unhandled f := by
  unfold word? at h
  cases hread : read? fs environment with
  | ok m =>
    rw [hread] at h
    exact exists_of_levelWord?_eq_error h
  | error f =>
    rw [hread] at h
    rcases isCause_of_read? hread with ⟨c, rfl⟩ | ⟨u, rfl⟩
    · exact nomatch h
    · cases h
      exact ⟨u, rfl⟩

/-- If the configuration can be loaded, it has a word that may stand for a level. -/
def NamesLevel (fs : FileSystem) (environment : Variables) : Prop :=
  ∀ m, read? fs environment = .ok m → ∃ word, HasLevelWord m word ∧ RootLogger.IsLevelWord word

end Format

end Configuration

open ThemeForge.Configuration

/-! ## Setting up -/

section Format

variable [Format]

namespace Run

theorem result_levelWord {w : World} (h : w.configuration = none) :
    result levelWord w = (word? w.files w.environment,
      { w with configuration := (read? w.files w.environment).toOption }) := by
  unfold levelWord word?
  simp only [result_bind, result_tryCatch, result_map, result_configuration h]
  cases read? w.files w.environment with
  | ok m =>
    simp only [Except.map]
    rw [result_ofExcept, Except.mapError_id]
  | error f => cases f <;> rfl

/-- Setting up loads the configuration, and then depends on its word. -/
theorem result_setUpLogging (root : RootLogger) (name : Text) (w : World) :
    result (setUpLogging root name []) w =
      (word? w.files w.environment >>= fun word =>
        ((root.setUp? word).mapError fun f => .unhandled (.level f)) >>= fun ready =>
          .ok ⟨ready.level, ready⟩,
        { w with configuration := (read? w.files w.environment).toOption }) := by
  unfold setUpLogging forgetConfiguration
  rw [result_bind_ok (result_modify _ w), result_bind, result_levelWord rfl]
  cases word? w.files w.environment with
  | error f => rfl
  | ok word =>
    simp only [result_bind, result_ofExcept, Except.ok_bind]
    cases root.setUp? word <;> rfl

end Run

theorem Run.setUpLogging_eq_ok_iff {root : RootLogger} (hroot : root.isSetUp = false) {name : Text}
    {w : World} {r : LoggingReport} : (result (setUpLogging root name []) w).1 = .ok r ↔
      ∃ word, word? w.files w.environment = .ok word ∧ RootLogger.IsLevelWord word ∧
        r = ⟨(root.ready word).level, root.ready word⟩ := by
  rw [result_setUpLogging, Except.bind_eq_ok_iff]
  refine exists_congr fun word => and_congr_right fun _ => ?_
  simp only [Except.bind_eq_ok_iff, Except.mapError_eq_ok_iff, RootLogger.setUp?_eq_ok_iff hroot,
    Except.ok.injEq]
  constructor
  · rintro ⟨r', ⟨hword, rfl⟩, rfl⟩
    exact ⟨hword, rfl⟩
  · rintro ⟨hword, rfl⟩
    exact ⟨_, ⟨hword, rfl⟩, rfl⟩

/-- There is a word for a level exactly if the configuration can be loaded in an orderly way and
has such a word itself, unless it is bad. -/
theorem Configuration.exists_word?_iff (fs : FileSystem) (environment : Variables) :
    (∃ word, word? fs environment = .ok word ∧ RootLogger.IsLevelWord word) ↔
      IsLoadable fs environment ∧ NamesLevel fs environment := by
  rw [← isAnswer_read?_iff]
  unfold word? NamesLevel
  cases hread : read? fs environment with
  | ok m => simp [levelWord?_eq_ok_iff]
  | error f =>
    cases f with
    | configuration f =>
      refine iff_of_true ⟨_, rfl, ?_⟩ ⟨isAnswer_configuration f, fun m hm => nomatch hm⟩
      constructor <;> decide
    | unhandled f => simp
    | _ =>
      rcases isCause_of_read? hread with ⟨_, h⟩ | ⟨_, h⟩ <;> exact nomatch h

theorem Run.exists_setUpLogging_iff {root : RootLogger} (hroot : root.isSetUp = false) (name : Text)
    (w : World) : (∃ r, (result (setUpLogging root name []) w).1 = .ok r) ↔
      IsLoadable w.files w.environment ∧ NamesLevel w.files w.environment := by
  rw [← exists_word?_iff]
  constructor
  · rintro ⟨r, hr⟩
    obtain ⟨word, hword, hlevel, -⟩ := (setUpLogging_eq_ok_iff hroot).mp hr
    exact ⟨word, hword, hlevel⟩
  · rintro ⟨word, hword, hlevel⟩
    exact ⟨_, (setUpLogging_eq_ok_iff hroot).mpr ⟨word, hword, hlevel, rfl⟩⟩

theorem Run.exists_of_setUpLogging_eq_error {root : RootLogger} {name : Text} {w : World}
    {f : Failure} (hf : (result (setUpLogging root name []) w).1 = .error f) :
    ∃ u, f = .unhandled u := by
  rw [result_setUpLogging] at hf
  rcases Except.bind_eq_error_iff.mp hf with hf | ⟨word, -, hf⟩
  · exact exists_of_word?_eq_error hf
  · rcases Except.bind_eq_error_iff.mp hf with hf | ⟨_, -, hf⟩
    · obtain ⟨u, -, rfl⟩ := Except.mapError_eq_error_iff.mp hf
      exact ⟨_, rfl⟩
    · exact nomatch hf

/-- **When logging is set up, and how.** For any handlers before, any name and any configuration,
logging is set up exactly if the configuration can be loaded in an orderly way, and has a word that
may stand for a level unless it is bad. Then there is one handler, and the level is that of the
word, or that of ordinary messages if the word names none or the configuration is bad. Nothing
handles what happens otherwise. -/
theorem setUpLogging_answer {root : RootLogger} (hroot : root.isSetUp = false) (name : Text)
    (w : World) :
    let o := (Run.result (Run.setUpLogging root name []) w).1
    let loaded := read? w.files w.environment
    ((∃ r, o = .ok r) ↔
      IsLoadable w.files w.environment ∧ NamesLevel w.files w.environment) ∧
    (∀ r, o = .ok r → r.root.handlers = 1 ∧ r.root.isSetUp = true ∧ r.root.level = r.level ∧
      (∀ f, loaded = .error (.configuration f) → r.level = LogLevel.info) ∧
      ∀ m word, loaded = .ok m → HasLevelWord m word →
        (∀ level, (word, level) ∈ LogLevel.words → r.level = level) ∧
        ((∀ level, (word, level) ∉ LogLevel.words) → r.level = LogLevel.info)) ∧
    ∀ f, o = .error f → ∃ u, f = .unhandled u := by
  intro o loaded
  refine ⟨Run.exists_setUpLogging_iff hroot name w, fun r hr => ?_,
    fun f hf => Run.exists_of_setUpLogging_eq_error hf⟩
  obtain ⟨word, hword, -, rfl⟩ := (Run.setUpLogging_eq_ok_iff hroot).mp hr
  have hlevel : (root.ready word).level = LogLevel.ofWord word := RootLogger.level_write _ _
  refine ⟨RootLogger.handlers_write _ _, RootLogger.isSetUp_write _ _, rfl, fun f hf => ?_,
    fun m word' hm hword' => ?_⟩
  · unfold word? at hword
    rw [show read? w.files w.environment = _ from hf] at hword
    cases hword
    exact hlevel
  · unfold word? at hword
    rw [show read? w.files w.environment = _ from hm] at hword
    have heq : word' = word :=
      Except.ok.inj ((levelWord?_eq_ok_iff.mpr hword').symm.trans hword)
    rw [heq]
    exact ⟨fun level h => hlevel.trans (LogLevel.ofWord_of_mem h),
      fun h => hlevel.trans (LogLevel.ofWord_of_forall_not_mem h)⟩

end Format

/-- A root logger that has not been set up. -/
def RootLogger.initial (handlers : Nat) : RootLogger where
  level := LogLevel.warning
  handlers := handlers
  isSetUp := false
  written := []

/-- The case of a level does not matter, and three handlers give way to one. -/
theorem setUpLogging_answer_error :
    let root := RootLogger.initial 3
    let w := configuredWorld "logging: \x7blevel: Error\x7d" []
    root.isSetUp = false ∧ ∃ r, (Run.result (Run.setUpLogging root "a" []) w).1 = .ok r ∧
      r.level = LogLevel.error ∧ r.root.handlers = 1 := by
  intro root w
  have hlevel : ((Run.result (Run.setUpLogging root "a" []) w).1.map LoggingReport.level) =
      .ok LogLevel.error := by
    decide +kernel
  obtain ⟨r, hr, hr'⟩ := Except.map_eq_ok_iff.mp hlevel
  have hroot : root.isSetUp = false := rfl
  obtain ⟨-, hready, -⟩ := setUpLogging_answer hroot "a" w
  exact ⟨hroot, r, hr, hr', (hready r hr).1⟩

/-- **Logging is not set up with a section that is a number**, nor when the level is given by the
name of a format or of a table. -/
theorem setUpLogging_fault :
    let outcome (w : World) :=
      ((Run.result (Run.setUpLogging (.initial 0) "a" []) w).1.map LoggingReport.level)
    outcome (configuredWorld "logging: 5" []) = .error (.unhandled (.noSection "int")) ∧
    outcome (configuredWorld "" [("THEMEKIT_LOG_LEVEL", "basic_format")]) =
      .error (.unhandled (.level (.unknown RootLogger.basicFormat))) ∧
    outcome (configuredWorld "" [("THEMEKIT_LOG_LEVEL", "_styles")]) =
      .error (.unhandled (.level (.notLevel RootLogger.stylesTable))) := by
  decide +kernel

end ThemeForge

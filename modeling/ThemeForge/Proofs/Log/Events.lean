import Mathlib.Data.List.ReduceOption
import ThemeForge.Proofs.Json.Carried
import ThemeForge.Proofs.Log.SetUp

/-!
# Logging after it has been set up

Once logging is set up, only its level changes: setting up again does nothing, whatever has become
of the configuration, and every call that is visible at the level of the moment writes one line, if
JSON can carry what it was passed.

* `LogRecord.attach?_nested`, `LogRecord.IsPlain.toOption_line?`: no data of a caller meets a field
  of the line;
* `Run.setUpLogging_eq`, `Run.result_setUpRoot_of_isSetUp`: setting up, and setting up again;
* `LoggingEvent`: what happens around logging, step by step;
* `LoggingEvent.levelAfter`, `LoggingEvent.linesAfter`: the level and the lines that a list of
  events accounts for;
* `LoggingEvent.IsPlain`, `LoggingEvent.asPassed?`: calls that JSON carries, and their lines;
* `LoggingEvent.root_perform`: what an event does to the root logger;
* `Logging.HasLogged`, `Logging.HasLogged.perform`, `Logging.HasLogged.performAll`: one event, and
  many;
* **`logging_after_events`**: logging after anything that happened;
* **`logging_altered`**: calls that JSON does not carry.
-/

namespace ThemeForge

/-! ## Lines -/

theorem LogLevel.isEncodable_name (level : Int) : (name level).IsEncodable := by
  unfold name
  split_ifs
  case neg =>
    exact Text.isEncodable_append.mpr ⟨by unfold Text.IsEncodable; decide,
      Text.isEncodable_ofInt level⟩
  all_goals
    unfold Text.IsEncodable
    decide

namespace LogRecord

/-- A message without arguments is taken in its plain form, unless it gives fields. -/
theorem ofCall?_nil {level : Int} (h : (Value.int level).isWritable = true) (logger : Text)
    {v : Value} (hv : v.isWritable = true) (hfields : ∀ m, v ≠ .mapping m) (extra : Option Value) :
    ofCall? level logger v [] extra = some { level, logger, message := v.plain, extra } := by
  unfold ofCall?
  rw [h]
  cases v with
  | mapping m => exact absurd rfl (hfields m)
  | _ =>
    simp only [hv]
    rfl

/-- The fields of a record whose message is a text. -/
theorem fields_eq {r : LogRecord} (h : r.own = []) : r.fields =
    [(.text "name", .text r.loggerName), (.text "levelname", .text (LogLevel.name r.level)),
      (.text "message", .text r.message)] := by
  rw [fields, h, List.foldl_nil]

/-- **No field is in the way** of what a caller adds. -/
theorem attach?_nested {r : LogRecord} (h : r.own = []) :
    attach? r.fields (nested r.extra) = .ok (r.fields ++ nested r.extra) := by
  rw [fields_eq h]
  cases r.extra with
  | none => rfl
  | some v =>
    have hfree : isAttribute (.text extraKey) = false ∧ isInternal (.text extraKey) = false := by
      decide
    rw [nested, attach?, hfree.1, hfree.2]
    simp only [Bool.false_eq_true, if_false, Value.Mapping.put_cons_text, Value.Mapping.put_nil]
    rfl

section Writer

variable [Json.Writer]

theorem toOption_line? {r : LogRecord} (h : r.own = []) :
    r.line?.toOption = Json.written? (r.fields ++ nested r.extra) := by
  rw [line?, attach?_nested h, Except.mapError_ok, Except.ok_bind]
  cases Json.written? (r.fields ++ nested r.extra) <;> rfl

/-- A record with a message that is a text, all of whose parts JSON carries unchanged. -/
structure IsPlain (r : LogRecord) : Prop where
  own : r.own = []
  logger : r.logger.joinPairs = r.logger
  message : r.message.joinPairs = r.message
  extra : ∀ v, r.extra = some v → Json.IsKept v

/-- **The line of a plain record** has its own fields, and after them the caller's data as it
is. -/
theorem IsPlain.toOption_line? {r : LogRecord} (h : r.IsPlain) :
    r.line?.toOption = some (r.fields ++ nested r.extra) := by
  have hlogger : r.loggerName.joinPairs = r.loggerName := by
    unfold loggerName
    split
    · decide
    · exact h.logger
  have hlevel : (LogLevel.name r.level).joinPairs = LogLevel.name r.level :=
    Text.joinPairs_of_isEncodable (LogLevel.isEncodable_name r.level)
  rw [LogRecord.toOption_line? h.own]
  refine Json.written?_of_isKept (List.forall_mem_append.mpr ⟨?_, fun e he => ?_⟩)
  · rw [fields_eq h.own, List.forall_mem_cons, List.forall_mem_cons, List.forall_mem_singleton]
    exact ⟨⟨rfl, Json.isKept_text_iff.mpr hlogger⟩, ⟨rfl, Json.isKept_text_iff.mpr hlevel⟩,
      rfl, Json.isKept_text_iff.mpr h.message⟩
  · cases hextra : r.extra with
    | none =>
      rw [hextra] at he
      exact nomatch he
    | some v =>
      rw [hextra, nested, List.mem_singleton] at he
      rw [he]
      exact ⟨rfl, h.extra v hextra⟩

end Writer

end LogRecord

/-! ## Setting up again -/

namespace Run

variable [Configuration.Format]

/-- Setting logging up from a configuration that is loaded anew sets up the root logger. -/
theorem setUpLogging_eq {root : RootLogger} (h : root.isSetUp = false) (name : Text)
    (calls : List LogCall) : setUpLogging root name calls = do
      forgetConfiguration
      let ready ← setUpRoot root
      return ⟨ready.level, calls.foldl (fun r c => r.call name c) ready⟩ := by
  unfold setUpLogging setUpRoot
  rw [h, if_neg Bool.false_ne_true]
  simp only [bind_assoc]

theorem result_setUpRoot_of_isSetUp {root : RootLogger} (h : root.isSetUp = true) (w : World) :
    result (setUpRoot root) w = (.ok root, w) := by
  rw [setUpRoot, if_pos h]
  rfl

/-- The first time, the root logger is set up for the configured word. -/
theorem exists_result_setUpRoot_iff {root r : RootLogger} (h : root.isSetUp = false) {w : World} :
    (∃ w', result (setUpRoot root) w = (.ok r, w')) ↔
      ∃ word, (result levelWord w).1 = .ok word ∧ RootLogger.IsLevelWord word ∧
        r = root.ready word := by
  have hbind : setUpRoot root = levelWord >>= fun word =>
      ofExcept (fun f => .unhandled (.level f)) (root.setUp? word) := by
    rw [setUpRoot, h, if_neg Bool.false_ne_true]
  rw [hbind, result_bind]
  rcases result levelWord w with ⟨f | word, w₁⟩
  · exact iff_of_false (fun ⟨_, h⟩ => nomatch h) fun ⟨_, h, _⟩ => nomatch h
  · simp only [result_ofExcept, Prod.mk.injEq, exists_and_left, exists_eq', and_true,
      Except.mapError_eq_ok_iff, RootLogger.setUp?_eq_ok_iff h, Except.ok.injEq, exists_eq_left']

end Run

/-! ## What happens around logging -/

/-- Logging and the world around it. -/
structure Logging where
  root : RootLogger
  world : World

/-- Logging is set up once more for a logger of some name, the level is set, a logger is called
with a message and perhaps further data, or the world changes in any way: its files, its variables
and the configuration it keeps. -/
inductive LoggingEvent
  | setUp (name : Text)
  | setLevel (level : Int)
  | log (name : Text) (level : Int) (message : Value) (extra : Option Value.Mapping)
  | world (change : World → World)

namespace LoggingEvent

/-- Logging after an event. -/
def perform [Configuration.Format] (s : Logging) : LoggingEvent → Logging
  | .setUp _ =>
    match (Run.setUpRoot s.root).result s.world with
    | (.ok root, w) => ⟨root, w⟩
    | (.error _, w) => ⟨s.root, w⟩
  | .setLevel level => { s with root := s.root.setLevel level }
  | .log name level message extra =>
    { s with root := s.root.call name (.log level message [] (extra.map .mapping)) }
  | .world change => { s with world := change s.world }

/-- Logging after several events. -/
def performAll [Configuration.Format] (s : Logging) (events : List LoggingEvent) : Logging :=
  events.foldl perform s

/-! ## What events account for -/

/-- The level that an event sets. -/
def level? : LoggingEvent → Option Int
  | .setLevel level => some level
  | _ => none

/-- The last level that events have set, or the one at the start. -/
def levelAfter (start : Int) (events : List LoggingEvent) : Int :=
  (events.filterMap level?).getLast?.getD start

/-- The record of a call that is visible when a level is set. -/
def record? (threshold : Int) : LoggingEvent → Option LogRecord
  | .log name level message extra =>
    (LogRecord.ofCall? level name message [] (extra.map .mapping)).filter fun r =>
      r.isVisible threshold
  | _ => none

theorem levelAfter_append_singleton (start : Int) (events : List LoggingEvent) (e : LoggingEvent) :
    levelAfter start (events ++ [e]) = e.level?.getD (levelAfter start events) := by
  unfold levelAfter
  rw [List.filterMap_append]
  cases h : e.level? with
  | none => simp [h]
  | some level => simp [h]

section Writer

variable [Json.Writer]

/-- The line for a call that is visible when a level is set, if it has one. -/
def line? (threshold : Int) (e : LoggingEvent) : Option Value.Mapping :=
  (e.record? threshold).bind fun r => r.line?.toOption

/-- The lines for events, each at the level that those before it have left. -/
def linesAfter (start : Int) (events : List LoggingEvent) : List Value.Mapping :=
  (events.mapIdx fun i e => e.line? (levelAfter start (events.take i))).reduceOption

theorem linesAfter_append_singleton (start : Int) (events : List LoggingEvent) (e : LoggingEvent) :
    linesAfter start (events ++ [e]) =
      linesAfter start events ++ (e.line? (levelAfter start events)).toList := by
  have hbefore : (events.mapIdx fun i e' => e'.line? (levelAfter start ((events ++ [e]).take i))) =
      events.mapIdx fun i e' => e'.line? (levelAfter start (events.take i)) := by
    refine List.mapIdx_eq_mapIdx_iff.mpr fun i hi => ?_
    rw [List.take_append_of_le_length (Nat.le_of_lt hi)]
  unfold linesAfter
  rw [List.mapIdx_concat, hbefore, List.take_left, List.reduceOption_append,
    List.reduceOption_singleton]

/-! ## Plain calls -/

/-- Calls have a positive level that can be named, their message is a text, and JSON carries all
that they are passed unchanged. -/
def IsPlain : LoggingEvent → Prop
  | .log name level message extra =>
    0 < level ∧ (Value.int level).isWritable = true ∧ name.joinPairs = name ∧
      (∃ t : Text, message = .text t ∧ t.joinPairs = t) ∧
      ∀ m, extra = some m → Json.IsKept (.mapping m)
  | _ => True

/-- The line with what a call is passed, if its level is not below the one that is set. -/
def asPassed? (threshold : Int) : LoggingEvent → Option Value.Mapping
  | .log name level message extra =>
    if threshold ≤ level then
      some ([(.text "name", .text (if name = [] then "root" else name)),
        (.text "levelname", .text (LogLevel.name level)), (.text "message", message)] ++
        (extra.map fun m => (Value.text "extra_data", Value.mapping m)).toList)
    else none
  | _ => none

/-- The line of a call whose message gives no fields. -/
theorem line?_log {level : Int} (hlevel : 0 < level)
    (hwritable : (Value.int level).isWritable = true) (name : Text) {v : Value}
    (hv : v.isWritable = true) (hfields : ∀ m, v ≠ .mapping m) (extra : Option Value.Mapping)
    (threshold : Int) : (log name level v extra).line? threshold =
      if threshold ≤ level then
        (LogRecord.line? ⟨level, name, v.plain, extra.map .mapping, []⟩).toOption
      else none := by
  have hvisible : LogRecord.isVisible threshold ⟨level, name, v.plain, extra.map .mapping, []⟩ =
      decide (threshold ≤ level) := by
    simp [LogRecord.isVisible, hlevel]
  rw [line?, record?, LogRecord.ofCall?_nil hwritable name hv hfields, Option.filter_some,
    hvisible]
  by_cases h : threshold ≤ level
  · rw [if_pos (decide_eq_true h), if_pos h, Option.bind_some]
  · rw [if_neg (by simpa using h), if_neg h, Option.bind_none]

/-- **The line of a plain call has what it was passed**, whatever names the data has. -/
theorem line?_eq_asPassed? {e : LoggingEvent} (he : e.IsPlain) (threshold : Int) :
    e.line? threshold = e.asPassed? threshold := by
  cases e with
  | log name level message extra =>
    obtain ⟨hpositive, hlevel, hname, ⟨t, rfl, ht⟩, hextra⟩ := he
    have hplain : LogRecord.IsPlain ⟨level, name, t, extra.map .mapping, []⟩ := by
      refine ⟨rfl, hname, ht, fun v hv => ?_⟩
      obtain ⟨m, hm, rfl⟩ := Option.map_eq_some_iff.mp hv
      exact hextra m hm
    rw [line?_log hpositive hlevel name rfl (by simp), asPassed?]
    refine if_congr Iff.rfl (hplain.toOption_line?.trans ?_) rfl
    cases extra <;> rfl
  | _ => rfl

/-- Of plain calls alone the lines are as they were passed. -/
theorem linesAfter_of_isPlain {events : List LoggingEvent} (h : ∀ e ∈ events, e.IsPlain)
    (start : Int) : linesAfter start events =
      (events.mapIdx fun i e => e.asPassed? (levelAfter start (events.take i))).reduceOption := by
  refine congrArg List.reduceOption (List.mapIdx_eq_mapIdx_iff.mpr fun i hi => ?_)
  exact line?_eq_asPassed? (h _ (List.getElem_mem hi)) _

end Writer

/-! ## What events do -/

/-- **What an event does to the root logger** that has been set up: its level is set, or a record is
written, and nothing else. -/
theorem root_perform [Configuration.Format] {s : Logging} (h : s.root.isSetUp = true)
    (e : LoggingEvent) : (e.perform s).root = { s.root with
      level := e.level?.getD s.root.level
      written := s.root.written ++ (e.record? s.root.level).toList } := by
  cases e with
  | setUp name =>
    simp [perform, Run.result_setUpRoot_of_isSetUp h, level?, record?]
  | setLevel level => simp [perform, RootLogger.setLevel, level?, record?]
  | log name level message extra =>
    simp only [perform, RootLogger.call, record?, level?, Option.getD_none]
    generalize LogRecord.ofCall? level name message [] (extra.map .mapping) = made
    cases made with
    | none => simp
    | some r =>
      simp only [Option.elim_some, RootLogger.write, Option.filter_some]
      split <;> simp
  | world change => simp [perform, level?, record?]

end LoggingEvent

open LoggingEvent

/-! ## Runs -/

section Writer

variable [Json.Writer]

/-- Logging is set up, and its level and its lines are those that events account for since it was
in a given state. -/
structure Logging.HasLogged (s : Logging) (start : RootLogger) (events : List LoggingEvent) :
    Prop where
  handlers : s.root.handlers = 1
  isSetUp : s.root.isSetUp = true
  level : s.root.level = levelAfter start.level events
  lines : s.root.lines = start.lines ++ linesAfter start.level events

namespace Logging.HasLogged

variable {s : Logging} {start : RootLogger} {events : List LoggingEvent}

theorem perform [Configuration.Format] (h : s.HasLogged start events) (e : LoggingEvent) :
    (e.perform s).HasLogged start (events ++ [e]) := by
  have hroot := root_perform h.isSetUp e
  refine ⟨?_, ?_, ?_, ?_⟩
  · rw [hroot]
    exact h.handlers
  · rw [hroot]
    exact h.isSetUp
  · rw [hroot, levelAfter_append_singleton, ← h.level]
  · have hline : (e.perform s).root.lines = s.root.lines ++ (e.line? s.root.level).toList := by
      rw [hroot, RootLogger.lines, List.filterMap_append, line?]
      cases e.record? s.root.level with
      | none => rfl
      | some r => cases h : r.line?.toOption <;> simp [RootLogger.lines, h]
    rw [hline, h.lines, linesAfter_append_singleton, List.append_assoc, h.level]

theorem performAll [Configuration.Format] (h : s.HasLogged s.root []) (events : List LoggingEvent) :
    (LoggingEvent.performAll s events).HasLogged s.root events := by
  -- from the end, since a call meets the level that the events before it have left
  induction events using List.reverseRecOn with
  | nil => exact h
  | append_singleton events e ih =>
    have hlast := ih.perform e
    rwa [LoggingEvent.performAll, List.foldl_append]

end Logging.HasLogged

theorem RootLogger.hasLogged_ready (root : RootLogger) (word : Text) (w : World) :
    Logging.HasLogged ⟨root.ready word, w⟩ (root.ready word) [] where
  handlers := handlers_write _ _
  isSetUp := isSetUp_write _ _
  level := rfl
  lines := (List.append_nil _).symm

/-- **Logging after anything that happened since it was first set up.** There is one handler still,
and the level is the last one that was set, or else that of the configured word. The lines are those
of the calls, in their order, each at the level set at the time. A call that JSON carries has a line
exactly if its level was not below that one, with the logger's name, the level's name, the message
and the data as they were passed. Setting up again changes nothing, whatever the world has
become. -/
theorem logging_after_events [Configuration.Format] {root ready : RootLogger}
    (hroot : root.isSetUp = false) {w w' : World}
    (hready : (Run.setUpRoot root).result w = (.ok ready, w')) (events : List LoggingEvent) :
    let s := performAll ⟨ready, w'⟩ events
    s.root.handlers = 1 ∧
    s.root.level = levelAfter ready.level events ∧
    (∃ word, (Run.levelWord.result w).1 = .ok word ∧ ready.level = LogLevel.ofWord word) ∧
    s.root.lines = ready.lines ++ linesAfter ready.level events ∧
    (∀ e ∈ events, e.IsPlain → ∀ threshold, e.line? threshold = e.asPassed? threshold) ∧
    ∀ w'', (Run.setUpRoot s.root).result w'' = (.ok s.root, w'') := by
  intro s
  obtain ⟨word, hword, -, rfl⟩ := (Run.exists_result_setUpRoot_iff hroot).mp ⟨w', hready⟩
  have hlogged := (root.hasLogged_ready word w').performAll events
  exact ⟨hlogged.handlers, hlogged.level, ⟨word, hword, RootLogger.level_write _ _⟩, hlogged.lines,
    fun e _ he => line?_eq_asPassed? he, Run.result_setUpRoot_of_isSetUp hlogged.isSetUp⟩

end Writer

/-- A call below the level, then one at a lower level whose data are named like fields of the line,
after the configuration has gone bad and logging has been set up for another logger. -/
theorem logging_after_events_clash :
    let root := RootLogger.initial 3
    let w := configuredWorld "logging: \x7blevel: warning\x7d" []
    let data : Value.Mapping := [(.text "message", .int 1), (.text "name", .null),
      (.text "extra_data", .text "x")]
    let line : Value.Mapping := [(.text "name", .text "b"), (.text "levelname", .text "INFO"),
      (.text "message", .text "%s"), (.text "extra_data", .mapping data)]
    let quiet : LoggingEvent := .log "a" 20 (.text "quiet") none
    let clash : LoggingEvent := .log "b" 20 (.text "%s") (some data)
    let events : List LoggingEvent := [quiet, .setLevel 15,
      .world fun _ => configuredWorld "logging: 5" [], .setUp "b", clash]
    root.isSetUp = false ∧ (∀ e ∈ events, e.IsPlain) ∧
    ∃ ready w', (Run.setUpRoot root).result w = (.ok ready, w') ∧
      let after := (performAll ⟨ready, w'⟩ events).root
      after.handlers = 1 ∧ after.level = 15 ∧ after.lines = [line] := by
  intro root w data line quiet clash events
  have hwritable (n : Int) (h : n.natAbs < 10 ^ 2) : (Value.int n).isWritable = true :=
    Value.isWritable_int (by decide) h
  have hquiet : quiet.IsPlain :=
    ⟨by decide, hwritable 20 (by decide), rfl, ⟨_, rfl, rfl⟩, fun m hm => nomatch hm⟩
  have hclash : clash.IsPlain := by
    refine ⟨by decide, hwritable 20 (by decide), rfl, ⟨_, rfl, rfl⟩, fun m hm => ?_⟩
    cases hm
    refine ⟨?_, rfl⟩
    simp only [data, Json.isCarried, Json.areEntriesCarried, hwritable 1 (by decide)]
    decide
  have hevents : ∀ e ∈ events, e.IsPlain := by
    simp only [events, List.forall_mem_cons]
    exact ⟨hquiet, trivial, trivial, trivial, hclash, fun _ h => nomatch h⟩
  have hword : (Run.levelWord.result w).1 = .ok "WARNING" := by
    decide +kernel
  have hlines : linesAfter LogLevel.warning events = [line] := linesAfter_of_isPlain hevents _
  have hroot : root.isSetUp = false := rfl
  obtain ⟨w', hready⟩ := (Run.exists_result_setUpRoot_iff hroot).mpr
    ⟨"WARNING", hword, by decide, rfl⟩
  have hnone : (root.ready "WARNING").lines = [] := rfl
  have hstart : (root.ready "WARNING").level = LogLevel.warning := rfl
  obtain ⟨hhandlers, hlevel, -, hall, -⟩ := logging_after_events hroot hready events
  rw [hnone, hstart, hlines, List.nil_append] at hall
  exact ⟨hroot, hevents, _, w', hready, hhandlers, hlevel, hall⟩

/-- **JSON does not carry every call**: data under a key that is a tuple has no line at all, a
number as a key comes back as a text, and so does a number as the message. -/
theorem logging_altered :
    let line (message : Text) : Value.Mapping := [(.text "name", .text "a"),
      (.text "levelname", .text "INFO"), (.text "message", .text message)]
    let paired : LoggingEvent := .log "a" LogLevel.info (.text "m") (some [(.tuple [], .null)])
    let numbered : LoggingEvent := .log "a" LogLevel.info (.text "m") (some [(.int 1, .null)])
    let number : LoggingEvent := .log "a" LogLevel.info (.int 5) none
    ∃ ready w', (Run.setUpRoot (.initial 1)).result (configuredWorld "" []) = (.ok ready, w') ∧
      let lines (e : LoggingEvent) := (performAll ⟨ready, w'⟩ [e]).root.lines
      lines paired = [] ∧ lines paired ≠ (paired.asPassed? ready.level).toList ∧
      lines numbered = [line "m" ++ [(.text "extra_data", .mapping [(.text "1", .null)])]] ∧
        lines numbered ≠ (numbered.asPassed? ready.level).toList ∧
      lines number = [line "5"] ∧ lines number ≠ (number.asPassed? ready.level).toList := by
  intro line paired numbered number
  have hword : (Run.levelWord.result (configuredWorld "" [])).1 = .ok "INFO" := by
    decide
  have hroot : (RootLogger.initial 1).isSetUp = false := rfl
  obtain ⟨w', hready⟩ := (Run.exists_result_setUpRoot_iff hroot).mpr
    ⟨"INFO", hword, by decide, rfl⟩
  have hlines (e : LoggingEvent) :
      (performAll ⟨RootLogger.ready (.initial 1) "INFO", w'⟩ [e]).root.lines =
        (e.line? LogLevel.info).toList := by
    have hlogged := (RootLogger.hasLogged_ready (.initial 1) "INFO" w').performAll [e]
    have hnone : (RootLogger.ready (.initial 1) "INFO").lines = [] := rfl
    have hline := hlogged.lines
    rw [hnone, List.nil_append] at hline
    exact hline.trans (List.reduceOption_singleton _)
  have hwritable (n : Int) (h : n.natAbs < 10 ^ 2) : (Value.int n).isWritable = true :=
    Value.isWritable_int (by decide) h
  have hinfo := hwritable LogLevel.info (by decide)
  have hpaired : paired.line? LogLevel.info = none := by
    rw [line?_log (by decide) hinfo "a" rfl (by simp), if_pos (Int.le_refl _),
      LogRecord.toOption_line? rfl]
    rfl
  have hnumbered : numbered.line? LogLevel.info =
      some (line "m" ++ [(.text "extra_data", .mapping [(.text "1", .null)])]) := by
    have hname : Json.name? (.int 1) = some (.ofString "1") := by
      rw [Json.name?, hwritable 1 (by decide)]
      rfl
    have hcarried : Json.carried? (.mapping [(.int 1, .null)]) =
        some (.mapping [(.text "1", .null)]) := by
      simp [Json.carried?, Json.carriedEntries?, hname]
    rw [line?_log (by decide) hinfo "a" rfl (by simp), if_pos (Int.le_refl _),
      LogRecord.toOption_line? rfl, LogRecord.fields_eq rfl]
    refine (if_pos rfl).trans ?_
    simp only [Option.map_some, LogRecord.nested, List.cons_append, List.nil_append,
      Json.carriedEntries?, hcarried]
    rfl
  have hnumber : number.line? LogLevel.info = some (line "5") := by
    rw [line?_log (by decide) hinfo "a" (hwritable 5 (by decide)) (by simp), if_pos (Int.le_refl _),
      LogRecord.toOption_line? rfl]
    rfl
  have hstart : (RootLogger.ready (.initial 1) "INFO").level = LogLevel.info := rfl
  refine ⟨_, w', hready, ?_⟩
  simp only [hlines, hpaired, hnumbered, hnumber, hstart]
  simp [asPassed?, paired, numbered, number, line]

end ThemeForge

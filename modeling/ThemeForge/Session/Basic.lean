import ThemeForge.Command.Run

/-!
# Sessions

A session is a world together with the level of logging. Whatever runs in it leaves its records to
be read; those that are visible at the level are returned with the outcome.

* `Session`, `Session.perform`: runs in a session;
* `LogCall`, `Run.setUpRoot`, `Run.setUpLogging`: logging set up from the configuration, and used.
-/

namespace ThemeForge

/-- A world and the level of logging. -/
structure Session where
  world : World := {}
  level : Int := LogLevel.info
deriving Repr

/-- What a run in a session gives: its outcome, the visible records, and the session after it. -/
structure Performed (α : Type) where
  outcome : Except Failure α
  records : List LogRecord
  session : Session

namespace Session

/-- Runs an act at a level of its own; the session keeps its level. -/
def performAt {α : Type} (s : Session) (level : Int) (act : Run α) : Performed α :=
  let (outcome, w) := act.run.run { s.world with log := [] }
  ⟨outcome, w.log.filter (LogRecord.isVisible level), { s with world := { w with log := [] } }⟩

/-- Runs an act. -/
def perform {α : Type} (s : Session) (act : Run α) : Performed α := s.performAt s.level act

end Session

/-! ## Logging -/

/-- What is done with a logger: the level is set, or a message is logged, its placeholders being
filled from arguments. -/
inductive LogCall
  | setLevel (level : Int)
  | log (level : Int) (message : Value) (arguments : List Value) (extra : Option Value)
deriving Repr

/-- The root logger after a call on the logger of a name. -/
def RootLogger.call (r : RootLogger) (logger : Text) : LogCall → RootLogger
  | .setLevel level => r.setLevel level
  | .log level message arguments extra =>
    (LogRecord.ofCall? level logger message arguments extra).elim r r.write

/-- Logging after it has been set up: the level right then, and the root logger after the calls. -/
structure LoggingReport where
  level : Int
  root : RootLogger
deriving Repr

section Format

variable [Configuration.Format]

/-- Sets the root logger up from the configuration, unless that has been done before. -/
def Run.setUpRoot (root : RootLogger) : Run RootLogger := do
  if root.isSetUp then return root
  else
    let word ← Run.levelWord
    Run.ofExcept (fun f => .unhandled (.level f)) (root.setUp? word)

/-- Sets logging up from the configuration, which is loaded anew, and makes calls on the logger of
a name. -/
def Run.setUpLogging (root : RootLogger) (name : Text) (calls : List LogCall) :
    Run LoggingReport := do
  Run.forgetConfiguration
  let word ← Run.levelWord
  let ready ← Run.ofExcept (fun f => .unhandled (.level f)) (root.setUp? word)
  return ⟨ready.level, calls.foldl (fun r c => r.call name c) ready⟩

end Format

end ThemeForge

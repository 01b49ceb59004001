import ThemeForge.Console.Basic
import ThemeForge.Failure.Basic
import ThemeForge.Settings.Variables

/-!
# The world of a run

What a run reads and changes: files, environment variables, the configuration once it has been
loaded, the template store in use, the console, the registry of new files, and the log. Every
record goes into the log; which of them are shown is decided by whoever reads it.

* `World`: the state; `Run`: computations on it that may fail;
* `Run.note`: writes a record;
* `Run.ofExcept`: a pure computation as part of a run;
* `Run.withStore`, `Run.withConsole`: a run with a store or a console of its own.
-/

namespace ThemeForge

/-- The state of a run. -/
structure World where
  files : FileSystem := {}
  environment : Variables := []
  configuration : Option Value.Mapping := none
  store : TemplateStore := .new none
  console : Console := {}
  registered : List FilePath := []
  log : List LogRecord := []
deriving Repr

/-- A computation that may change the world and may fail; what it changed before a failure
stays. -/
abbrev Run := ExceptT Failure (StateM World)

namespace Run

/-- A record as part of the log. -/
def note (level : Int) (logger message : Text) (extra : Option Value) : Run Unit :=
  modify fun w => { w with log := w.log ++ [{ level, logger, message, extra }] }

/-- A pure computation as part of a run. -/
def ofExcept {α ε : Type} (failure : ε → Failure) : Except ε α → Run α
  | .ok a => pure a
  | .error e => throw (failure e)

/-- Ends with a failure that nothing handles. -/
def unhandled {α : Type} (f : Failure.Unhandled) : Run α := throw (.unhandled f)

/-- The outcome of a run as a value. -/
def outcome {α : Type} (act : Run α) : Run (Except Failure α) := ExceptT.lift act.run

/-- Replaces the files. -/
def setFiles (fs : FileSystem) : Run Unit := modify fun w => { w with files := fs }

/-- Replaces the store. -/
def setStore (s : TemplateStore) : Run Unit := modify fun w => { w with store := s }

/-- Prints a text. -/
def print (t : Text) : Run Unit := modify fun w => { w with console := w.console.print t }

/-- Reports a text as an error. -/
def report (t : Text) : Run Unit := modify fun w => { w with console := w.console.report t }

/-- Runs with another store; afterwards the store is the one from before. -/
def withStore {α : Type} (s : TemplateStore) (act : Run α) : Run α := do
  let before := (← get).store
  setStore s
  let result ← outcome act
  setStore before
  ofExcept id result

/-- Runs with a console of its own, which is returned with the outcome. -/
def withConsole {α : Type} (c : Console) (act : Run α) : Run (Except Failure α × Console) := do
  let before := (← get).console
  modify fun w => { w with console := c }
  let result ← outcome act
  let after := (← get).console
  modify fun w => { w with console := before }
  return (result, after)

end Run

end ThemeForge

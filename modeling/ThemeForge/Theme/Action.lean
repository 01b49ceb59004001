import ThemeForge.Theme.Prompt
import ThemeForge.World.Rendering

/-!
# Creating themes

The action asks a provider for a theme, derives its file from the request and creates the file from
its template.

* `Provider`: where requests come from;
* `Run.generate`: the file name and the properties for a request;
* `ThemeAction`, `ThemeAction.create`, `ThemeAction.register`, `ThemeAction.perform`: the action
  and its steps.
-/

namespace ThemeForge

/-- The logger of the generator. -/
def Logger.generator : Text := "themekit.generator"

/-- The logger of the action. -/
def Logger.action : Text := "themekit.action"

/-- The logger of the registry. -/
def Logger.registry : Text := "themekit.registry"

/-- Where requests come from: one given in advance, a user who has cancelled, or the console. -/
inductive Provider
  | given (r : ThemeRequest)
  | cancelled
  | prompt (fallback : Bool)
deriving DecidableEq, Repr

namespace Run

/-- The failure that a fault of the generator means. -/
def generateFailure : GenerateFault → Failure
  | .rejected v => .rejected v
  | .fileName f => .unhandled (.fileName f)

/-- The record about a rejected name. -/
def noteRejected (name : Text) (v : Verdict) : Run Unit :=
  note LogLevel.warning Logger.generator
    (Text.concat ["Rejected theme name ", name.quote, ": ", v.message.getD "None"]) none

/-- The record about a derived file name. -/
def noteDerived (r : ThemeRequest) (fileName : Text) : Run Unit :=
  note LogLevel.debug Logger.generator
    (Text.concat ["Derived file name '", fileName, "' for theme ", r.name.quote])
    (some (.mapping [(.text "file_name", .text fileName), (.text "is_dark", .bool r.isDark)]))

/-- The file name and the properties for a request. -/
def generate (d : ThemeDefaults) (r : ThemeRequest) : Run GeneratedFile := do
  let result := d.generate? r
  match result with
  | .ok g => noteDerived r g.fileName
  | .error (.rejected v) => noteRejected r.name v
  | .error (.fileName _) => pure ()
  ofExcept generateFailure result

end Run

/-- The action: the defaults for new themes, the name of their template, and whether a registry
takes note of new files. -/
structure ThemeAction where
  defaults : ThemeDefaults := {}
  template : Text := defaultTemplate
  hasRegistry : Bool := false
deriving DecidableEq, Repr

namespace ThemeAction

variable [Template.Engine]

/-- The action for settings. -/
def ofSettings (s : Settings) (hasRegistry : Bool) : ThemeAction :=
  ⟨s.themes, s.templates.themeTemplate, hasRegistry⟩

/-- The request of a provider. -/
def request (a : ThemeAction) : Provider → Run (Option ThemeRequest)
  | .given r => return some r
  | .cancelled => return none
  | .prompt fallback => Run.askForTheme a.defaults fallback

/-- Creates the file for a request. -/
def create (a : ThemeAction) (r : ThemeRequest) (directory : Text) (diskFull : Bool) :
    Run FilePath := do
  let g ← Run.generate a.defaults r
  let t ← Run.template a.template
  Run.create t g.fileName g.properties.toValues directory diskFull

/-- The record of the default registry about a new file. -/
def noteUnregistered (path : FilePath) : Run Unit :=
  Run.note LogLevel.debug Logger.registry (Text.concat
    ["No theme registry configured; skipping registration of '", path.text, "'"]) none

/-- Hands the path of a new file to the registry; the default one only writes a record. -/
def register (a : ThemeAction) (path : FilePath) : Run Unit := do
  modify fun w => { w with registered := w.registered ++ [path] }
  if !a.hasRegistry then noteUnregistered path

/-- Performs the action; the result is none if the user cancelled. -/
def perform (a : ThemeAction) (p : Provider) (directory : Text) (diskFull : Bool) :
    Run (Option FilePath) := do
  match ← a.request p with
  | none =>
    Run.note LogLevel.info Logger.action "New theme action cancelled; nothing was written." none
    return none
  | some r =>
    let path ← a.create r directory diskFull
    a.register path
    return some path

/-- Performs the action several times in a row; a failure does not stop the others. -/
def performTimes (a : ThemeAction) (p : Provider) (directory : Text) (diskFull : Bool) :
    Nat → Run (List (Except Failure (Option FilePath)))
  | 0 => return []
  | n + 1 => do
    let first ← Run.outcome (a.perform p directory diskFull)
    return first :: (← performTimes a p directory diskFull n)

end ThemeAction

end ThemeForge

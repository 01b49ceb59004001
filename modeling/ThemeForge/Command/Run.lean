import ThemeForge.Command.Line
import ThemeForge.Console.Terminal
import ThemeForge.Theme.Action
import ThemeForge.World.Configuration

/-!
# Running commands

* `Command.handle`: a failure that is handled becomes a line for the user and the exit code 1;
* `Command.run`: a command and its exit code;
* `Invocation.run`, `Invocation.level`: a command line and its effect on the log level.
-/

namespace ThemeForge

variable [Template.Engine] [Configuration.Format] [Terminal]

namespace Command

/-- Reports a line as an error. -/
def reportLine (t : Text) : Run Unit := Run.report (Terminal.layout .errors t)

/-- Prints a line. -/
def printLine (t : Text) : Run Unit := Run.print (Terminal.layout .output t)

/-- The word in front of a failure. -/
def failureWord : Failure → Text
  | .configuration _ => "Configuration error: "
  | _ => "Error: "

/-- Runs an act for its exit code; a failure that is handled is reported and gives code 1. -/
def handle (act : Run Nat) : Run Nat := do
  match ← Run.outcome act with
  | .ok code => return code
  | .error f =>
    if f.IsHandled then
      reportLine (Text.concat [failureWord f, f.message])
      return 1
    else throw f

/-- Where the theme comes from: its name is asked for if none is given. -/
def provider (name : Option Text) (isDark : Bool) : Provider :=
  match name with
  | some n => .given ⟨n, isDark⟩
  | none => .prompt isDark

/-- Creates a theme. -/
def runNewTheme (directory : Text) (name : Option Text) (dark : Option Bool) (diskFull : Bool) :
    Run Nat := do
  let s ← Run.settings
  let p := provider name (dark.getD s.themes.dark)
  let act := (ThemeAction.ofSettings s false).perform p directory diskFull
  match ← Run.withStore (.new s.templates.directory) act with
  | some path =>
    printLine (Text.concat ["✅ Created theme file: ", path.text])
    return 0
  | none =>
    reportLine "Cancelled."
    return 1

/-- Prints what a new file would hold. -/
def runPreview (name : Text) (dark : Option Bool) : Run Nat := do
  let s ← Run.settings
  let request : ThemeRequest := ⟨name, dark.getD s.themes.dark⟩
  let g ← Run.generate s.themes request
  let content ← Run.withStore (.new s.templates.directory) do
    let t ← Run.template s.templates.themeTemplate
    Run.render t g.properties.toValues
  reportLine (Text.concat ["📄 File name: ", g.fileName])
  Run.print (Terminal.echo content)
  return 0

/-- The row of a template; a mark shows the one for new themes. -/
def templateRow (inUse : Text) (e : Text × TemplateOrigin) : List Text :=
  [e.1, e.2.word, if e.1 = inUse then ("✅" : Text) else []]

/-- The table of all templates. -/
def templateTable (inUse : Text) (templates : List (Text × TemplateOrigin)) : Table :=
  ⟨"🎨 themekit Templates", ["Name", "Source", "Used for new themes"],
    templates.map (templateRow inUse)⟩

/-- Lists the templates. -/
def runListTemplates : Run Nat := do
  let s ← Run.settings
  let store := TemplateStore.new s.templates.directory
  let templates := store.list (← get).files
  Run.print (Terminal.table (templateTable s.templates.themeTemplate templates))
  return 0

/-- Runs a command, on a disk that may be full. -/
def run (c : Command) (diskFull : Bool := false) : Run Nat :=
  handle (match c with
    | .newTheme directory name dark => runNewTheme directory name dark diskFull
    | .preview name dark => runPreview name dark
    | .listTemplates => runListTemplates)

end Command

namespace Invocation

/-- The exit code for a command line that makes no sense. -/
def misuseCode : Nat := 2

/-- Runs what a command line asks for; help and complaints about the command line are shown by
whoever reads it. -/
def run (i : Invocation) (diskFull : Bool := false) : Run Nat :=
  match i.intent with
  | .misuse => return misuseCode
  | .help => return 0
  | .command c => c.run diskFull

/-- The log level while a command line runs. -/
def level (i : Invocation) (before : Int) : Int := if i.isDebug then LogLevel.debug else before

end Invocation

end ThemeForge

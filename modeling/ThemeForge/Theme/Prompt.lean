import ThemeForge.World.Basic

/-!
# Asking for a theme

The name is asked for until one is acceptable, then whether the theme is dark until the answer is
understood. The end of the input cancels.

* `Prompt.askName`, `Prompt.askDark`: the two questions, as functions of the console;
* `Run.askForTheme`: the request that the answers give.
-/

namespace ThemeForge

/-- The logger of the prompt. -/
def Logger.prompt : Text := "themekit.providers.prompt_provider"

namespace Prompt

/-- The question for the name. -/
def nameQuestion : Text := "Theme name: "

/-- The question about darkness; the default is the capital letter. -/
def darkQuestion (fallback : Bool) : Text :=
  Text.concat ["Dark theme? [", if fallback then "Y/n" else "y/N", "]: "]

/-- The report about an answer that is not understood. -/
def notUnderstood : Text := "Error: invalid input\n"

/-- Asks for a name until one is acceptable; the fuel bounds the number of questions. -/
def askNameFrom (d : ThemeDefaults) : Nat → Console → Console × Option Text
  | 0, c => (c, none)
  | n + 1, c =>
    let c := c.print nameQuestion
    match c.readLine? with
    | none => (c, none)
    | some (line, c) =>
      let verdict := d.judge line
      if verdict.isOk then (c, some line)
      else askNameFrom d n (c.print (Text.concat [verdict.message.getD [], "\n"]))

/-- Asks for a name until one is acceptable. -/
def askName (d : ThemeDefaults) (c : Console) : Console × Option Text :=
  askNameFrom d (c.input.length + 1) c

/-- Asks about darkness until the answer is understood; the fuel bounds the number of questions. -/
def askDarkFrom (fallback : Bool) : Nat → Console → Console × Option Bool
  | 0, c => (c, none)
  | n + 1, c =>
    let c := c.print (darkQuestion fallback)
    match c.readLine? with
    | none => (c, none)
    | some (line, c) =>
      match Console.yesNo? fallback line with
      | some b => (c, some b)
      | none => askDarkFrom fallback n (c.print notUnderstood)

/-- Asks about darkness until the answer is understood. -/
def askDark (fallback : Bool) (c : Console) : Console × Option Bool :=
  askDarkFrom fallback (c.input.length + 1) c

/-- Asks for a theme. -/
def ask (d : ThemeDefaults) (fallback : Bool) (c : Console) : Console × Option ThemeRequest :=
  match askName d c with
  | (c, none) => (c, none)
  | (c, some name) =>
    match askDark fallback c with
    | (c, none) => (c, none)
    | (c, some isDark) => (c, some ⟨name, isDark⟩)

end Prompt

/-- Asks for a theme on the console of the run. -/
def Run.askForTheme (d : ThemeDefaults) (fallback : Bool) : Run (Option ThemeRequest) := do
  let w ← get
  let (c, request) := Prompt.ask d fallback w.console
  set { w with console := c }
  if request.isNone then
    Run.note LogLevel.info Logger.prompt "Theme creation cancelled at the prompt." none
  return request

end ThemeForge

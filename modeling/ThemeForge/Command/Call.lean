import ThemeForge.Command.Run
import ThemeForge.Files.Change
import ThemeForge.Session.Basic

/-!
# Calls of the program

A call is a command line with what is typed and the environment. It is performed on files, of which
it needs only those at a few places and below one directory.

* `ProgramCall`, `ProgramCall.perform`: a call, with logging set up from the configuration;
* `ProgramCall.places`, `ProgramCall.templateDirectory?`: where the files lie that a call needs, as
  far as known files tell;
* `ProgramCall.errorText`: what is shown besides the output.
-/

namespace ThemeForge

/-- A call of the program. -/
structure ProgramCall where
  words : List Text
  input : Text
  environment : Variables
deriving Repr

namespace ProgramCall

variable [Template.Engine] [Configuration.Format] [Terminal]

/-- The session in which a call starts. -/
def session (c : ProgramCall) (fs : FileSystem) : Session :=
  { world := { files := fs, environment := c.environment, console := .typing c.input } }

/-- The logger of the command line. -/
def logger : Text := "themekit.cli"

/-- Performs a call on files. -/
def perform (c : ProgramCall) (fs : FileSystem) : Performed Nat :=
  let ready := (c.session fs).perform (Run.setUpLogging ⟨LogLevel.info, 0, false, []⟩ logger [])
  match ready.outcome with
  | .error f => ⟨.error f, ready.records, ready.session⟩
  | .ok report =>
    let i := Invocation.read fs c.words
    let p := ready.session.performAt (i.level report.level) i.run
    { p with records := report.root.written ++ p.records }

/-! ## Places -/

/-- Where the user's templates lie. -/
def templateDirectory? (c : ProgramCall) (fs : FileSystem) : Option Text :=
  match Configuration.read? fs c.environment >>= Configuration.settings? with
  | .error _ => none
  | .ok s => (TemplateStore.new s.templates.directory).directory.map FilePath.text

/-- The directory for a new theme. -/
def directoryPlaces (c : ProgramCall) (fs : FileSystem) : List Text :=
  match (Invocation.read fs c.words).intent with
  | .command (.newTheme directory _ _) => [directory]
  | _ => []

/-- What a call would make. -/
def resultPlaces (c : ProgramCall) (fs : FileSystem) : List Text :=
  (fs.differences (c.perform fs).session.world.files).map fun d => d.1.text

/-- The places that a call depends on, besides the templates. -/
def places (c : ProgramCall) (fs : FileSystem) : List Text :=
  Failure.configurationFile :: Configuration.assignmentsFile ::
    (c.directoryPlaces fs ++ c.resultPlaces fs)

/-- How often places have to be looked up: the templates are known once the configuration is, and
what a call makes is known once the templates are. -/
def lookups : Nat := 3

/-! ## Reports -/

/-- A short description of the command line. -/
def usage : Text := Text.join "\n" [
  "Usage: themekit [--debug] COMMAND",
  "",
  "Create theme JSON files from templates.",
  "",
  "  new-theme [--name TEXT] [--dark|--light] [DIRECTORY]",
  "  preview --name TEXT [--dark|--light]",
  "  list-templates",
  ""]

/-- The line of a record. -/
def recordLine (r : LogRecord) : Text :=
  Text.concat ([LogLevel.name r.level, (" " : Text), r.loggerName, (": " : Text), r.message]
    ++ (r.extra.map fun v => Text.concat [" ", v.plain]).toList ++ [("\n" : Text)])

/-- What is shown besides the output: records, errors, and help if the command line asks for it or
makes no sense. -/
def errorText (c : ProgramCall) (fs : FileSystem) (p : Performed Nat) : Text :=
  let failure := match p.outcome with
    | .ok _ => []
    | .error f => f.message ++ "\n"
  let help := match (Invocation.read fs c.words).intent with
    | .command _ => []
    | _ => usage
  Text.concat (p.records.map recordLine ++ [p.session.world.console.errors, failure, help])

/-- The exit code; a failure that nothing handles gives code 1. -/
def exitCode (p : Performed Nat) : Nat :=
  match p.outcome with
  | .ok code => code
  | .error _ => 1

end ProgramCall

end ThemeForge

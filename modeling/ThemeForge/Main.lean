import ThemeForge.Command.Call
import ThemeForge.Platform

/-!
# The program

Reads what a call needs, performs it, and writes what it made.
-/

open ThemeForge

/-- The bytes of a text; code points without bytes are left out. -/
def outputBytes (t : Text) : ByteArray :=
  ⟨(t.flatMap fun c => (Text.encodeEscaped? [c]).toOption.getD []).toArray⟩

/-- The name of a place as the system takes it. -/
def systemName (place : Text) : String :=
  String.ofList (place.map fun c => Char.ofNat c.val)

/-- The number by which the system says that a directory cannot be read as a file. -/
def directoryNumber : UInt32 := SystemError.isDirectory.number.toUInt32

/-- Adds what lies at a place to files. -/
def readPlace (fs : FileSystem) (place : Text) : IO FileSystem := do
  match ← (IO.FS.readBinFile (systemName place)).toBaseIO with
  | .ok bytes => return fs.installFile (FilePath.ofText place) bytes.toList
  | .error (.inappropriateType _ number _) =>
    return if number = directoryNumber then fs.installDirectory (FilePath.ofText place) else fs
  | .error _ => return fs

/-- The names in a directory; what is no directory has none. -/
def namesIn (place : Text) : IO (List Text) := do
  let here ← IO.currentDir
  match ← (here / systemName place).readDir.toBaseIO with
  | .ok entries => return entries.toList.map fun e => Text.ofString e.fileName
  | .error _ => return []

/-- Adds what lies at a place and below it to files, down to a depth. -/
def readTree : Nat → FileSystem → Text → IO FileSystem
  | 0, fs, _ => return fs
  | depth + 1, fs, place => do
    let fs ← readPlace fs place
    (← namesIn place).foldlM (fun fs n => readTree depth fs (Text.concat [place, "/", n])) fs

/-- The greatest depth of templates: no path is longer than its bytes. -/
def maxDepth : Nat := FileSystem.maxPathBytes

/-- Looks up what a call depends on. -/
def readPlaces (c : ProgramCall) : Nat → FileSystem → IO FileSystem
  | 0, fs => return fs
  | n + 1, fs => do
    let fs ← (c.places fs).foldlM readPlace fs
    readPlaces c n (← (c.templateDirectory? fs).toList.foldlM (readTree maxDepth) fs)

/-- Writes a change to disk. -/
def writeChange (change : Location × Change) : IO Unit :=
  let name := systemName change.1.text
  match change.2 with
  | .directory => IO.FS.createDirAll name
  | .file content => IO.FS.writeBinFile name ⟨content.toArray⟩
  | .removed => return

/-- Where the system keeps the variables of the environment. -/
def environmentPlace : Text := "/proc/self/environ"

/-- The names under which variables are looked for on other systems. -/
def variableNames : List String := ["THEMEKIT_LOG_LEVEL", "THEMEKIT_TEMPLATES_DIR"]

/-- The variables of the environment. -/
def readEnvironment : IO Variables := do
  match ← (IO.FS.readBinFile (systemName environmentPlace)).toBaseIO with
  | .ok block => return Variables.ofBlock (Utf8.decodeEscaped block.toList)
  | .error _ => variableNames.filterMapM fun n => do
    return (← IO.getEnv n).map fun v => (Text.ofString n, Text.ofString v)

/-- All that is typed, if the command line leaves a question open. -/
def readInput (words : List Text) : IO Text := do
  match (Invocation.read {} words).intent with
  | .command (.newTheme _ none _) =>
    return Utf8.decodeEscaped (← (← IO.getStdin).readBinToEnd).toList
  | _ => return []

/-- Runs the program. -/
def main (words : List String) : IO UInt32 := do
  let words := words.map Text.ofString
  let c : ProgramCall := ⟨words, ← readInput words, ← readEnvironment⟩
  let fs ← readPlaces c ProgramCall.lookups {}
  let p := c.perform fs
  (fs.differences p.session.world.files).forM writeChange
  (← IO.getStderr).write (outputBytes (c.errorText fs p))
  (← IO.getStdout).write (outputBytes p.session.world.console.output)
  return (ProgramCall.exitCode p).toUInt32

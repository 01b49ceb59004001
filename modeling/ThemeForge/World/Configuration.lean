import ThemeForge.Settings.Format
import ThemeForge.World.Basic

/-!
# The configuration

The configuration is a mapping in the file `config.yaml`, in which environment variables override
two entries. It is loaded once; later changes show only after a reload.

* `Configuration.overlay?`: the overrides applied to a mapping;
* `Configuration.read?`: the mapping for given files and variables;
* `Run.configuration`, `Run.reloadConfiguration`, `Run.settings`: loading, reloading and checking
  in the course of a run.
-/

namespace ThemeForge

namespace Configuration

/-- The file of assignments beside the configuration. -/
def assignmentsFile : Text := ".env"

/-- What a file that can be read says; line ends are all read as line feeds. -/
def textOf? (bytes : Bytes) : Except Failure Text :=
  match Utf8.decode? bytes with
  | .ok t => .ok t.universalNewlines
  | .error f => .error (.unhandled (.decoding f))

/-- The mapping in the file; without a file, and when the file says nothing, it is empty. -/
def fromFile? [Format] (fs : FileSystem) : Except Failure Value.Mapping :=
  let path := FilePath.ofText Failure.configurationFile
  match fs.find? path with
  | .ok (some (.file bytes _)) => do
    let t ← textOf? bytes
    match Format.load? t with
    | .error (.malformed report) => throw (.configuration (.malformed report))
    | .error (.crash c) => throw (.unhandled (.crash c))
    | .ok (.mapping m) => return m
    | .ok v => if v.isTruthy then throw (.configuration .notMapping) else return []
  | .ok (some .directory) => .error (.unhandled (.system .isDirectory path))
  | _ => .ok []

/-- The overrides of the environment and of the file of assignments. -/
def overrides? (fs : FileSystem) (environment : Variables) : Except Failure Overrides :=
  match fs.file? (FilePath.ofText assignmentsFile) with
  | some (bytes, _) => do return .of environment (Assignments.read (← textOf? bytes))
  | none => .ok (.of environment [])

/-- The entries of pairs, each a sequence of two values; `n` counts the pairs before them. -/
def entriesOf? (n : Nat) (m : Value.Mapping) : List Value → Except Failure.Overlay Value.Mapping
  | [] => .ok m
  | v :: rest =>
    match v.items? with
    | none => .error (.element n)
    | some [key, value] =>
      if key.isKey then entriesOf? (n + 1) (Value.Mapping.put key value m) rest
      else .error (.unhashable key.kind)
    | some items => .error (.elementLength n items.length)

/-- The entries of a section: those of a mapping, or of a sequence of pairs. What counts as false
has none. -/
def section? (v : Value) : Except Failure.Overlay Value.Mapping :=
  if !v.isTruthy then .ok []
  else
    match v with
    | .mapping m => .ok m
    | v =>
      match v.items? with
      | some items => entriesOf? 0 [] items
      | none => .error (.notIterable v.kind)

/-- Sets an entry of a section of a mapping, unless the value is absent or empty. -/
def setIn? (sectionName key : Text) (value : Option Text) (m : Value.Mapping) :
    Except Failure.Overlay Value.Mapping :=
  match value with
  | none | some [] => .ok m
  | some t => do
    let entries ← section? ((m.getText? sectionName).getD .null)
    return m.put (.text sectionName) (.mapping (entries.put (.text key) (.text t)))

/-- A mapping with its overrides. -/
def overlay? (o : Overrides) (m : Value.Mapping) : Except Failure.Overlay Value.Mapping := do
  setIn? "templates" "dir" o.directory (← setIn? "logging" "level" o.level m)

/-- The configuration for given files and variables. -/
def read? [Format] (fs : FileSystem) (environment : Variables) :
    Except Failure Value.Mapping := do
  let m ← fromFile? fs
  let o ← overrides? fs environment
  (overlay? o m).mapError fun f => .unhandled (.overlay f)

/-- The settings of a configuration. -/
def settings? [Format] (m : Value.Mapping) : Except Failure Settings :=
  (Settings.check (.mapping m)).toExcept.mapError fun ps =>
    .configuration (.invalid ps (Format.report (.mapping m) ps))

/-- The word that data is written as, in upper case. -/
def writtenWord? [Format] (v : Value) : Except Failure Text :=
  if !v.isWithin Format.maxDepth then .error (.unhandled .nesting)
  else if !v.isWritable then .error (.unhandled .longInteger)
  else .ok v.plain.upper

/-- The word for the level of logging in a configuration; other data than a text gives the word
that it is written as. -/
def levelWord? [Format] (m : Value.Mapping) : Except Failure Text :=
  let logging := (m.getText? "logging").getD .null
  if !logging.isTruthy then .ok defaultLevel.upper
  else
    match logging with
    | .mapping s =>
      match Value.Mapping.getText? s "level" with
      | none => .ok defaultLevel.upper
      | some v => writtenWord? v
    | v => .error (.unhandled (.noSection v.kind))

end Configuration

namespace Run

variable [Configuration.Format]

/-- The configuration, which is loaded unless it has been before. -/
def configuration : Run Value.Mapping := do
  let w ← get
  match w.configuration with
  | some m => return m
  | none =>
    let m ← ofExcept id (Configuration.read? w.files w.environment)
    modify fun w => { w with configuration := some m }
    return m

/-- Forgets the configuration. -/
def forgetConfiguration : Run Unit := modify fun w => { w with configuration := none }

/-- Loads the configuration anew. -/
def reloadConfiguration : Run Value.Mapping := do
  forgetConfiguration
  configuration

/-- The settings of the configuration. -/
def settings : Run Settings := do ofExcept id (Configuration.settings? (← configuration))

/-- The configured word for the level of logging; a bad configuration counts as none. -/
def levelWord : Run Text := do
  let m ← tryCatch (some <$> configuration) fun
    | .configuration _ => pure none
    | f => throw f
  match m with
  | some m => ofExcept id (Configuration.levelWord? m)
  | none => return LogLevel.name LogLevel.info

end Run

end ThemeForge

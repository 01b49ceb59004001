import ThemeForge.Files.Tree

/-!
# The command line

A command line names a command, in front of which the program's own options may stand, and the
command's options and arguments. A long option takes its value from the next word or after an equals
sign, a short one from the rest of its word or the next word; two hyphens end the options.

* `Options.read?`: the options and arguments of a list of words;
* `Command`, `Invocation`, `Invocation.read`: what a command line asks for.
-/

namespace ThemeForge

namespace Options

/-- The options of the program and of its commands. -/
inductive Kind
  | help
  | debug
  | name
  | dark
  | light
deriving DecidableEq, Repr

/-- Whether an option takes a value. -/
def Kind.takesValue : Kind → Bool
  | .name => true
  | _ => false

/-- The spellings of options, and whether options may follow arguments. -/
structure Rules where
  spellings : List (Text × Kind)
  interspersed : Bool
deriving DecidableEq, Repr

/-- An option with its value, which is empty if it takes none. -/
abbrev Given := Kind × Text

/-- What a word that starts with a hyphen holds: options, of which the last may still need a
value. -/
structure Word where
  given : List Given
  pending : Option Kind
deriving DecidableEq, Repr

/-- The options of a word of short ones. -/
def shortWord? (r : Rules) : Text → Option Word
  | [] => some ⟨[], none⟩
  | c :: rest =>
    match r.spellings.lookup (Code.ofChar '-' :: [c]) with
    | none => none
    | some k =>
      if k.takesValue then
        if rest = [] then some ⟨[], some k⟩ else some ⟨[(k, rest)], none⟩
      else (shortWord? r rest).map fun w => { w with given := (k, []) :: w.given }

/-- The spelling of a long option and its value after an equals sign. -/
def splitValue (w : Text) : Text × Option Text :=
  let n := w.takeWhile (· != Code.ofChar '=')
  (n, if n.length = w.length then none else some (w.drop (n.length + 1)))

/-- A long option, or short ones if there is no such long option. -/
def word? (r : Rules) (w : Text) : Option Word :=
  let (spelling, value) := splitValue w
  match (if spelling.length > 2 then r.spellings.lookup spelling else none) with
  | some k =>
    match k.takesValue, value with
    | true, some v => some ⟨[(k, v)], none⟩
    | true, none => some ⟨[], some k⟩
    | false, some _ => none
    | false, none => some ⟨[(k, [])], none⟩
  | none => if w.startsWith "--" then none else shortWord? r (w.drop 1)

/-- Whether a word holds options. -/
def isOption (w : Text) : Bool := w.startsWith "-" && 1 < w.length

/-- The options and the arguments of a list of words, unless it breaks the rules. -/
def read? (r : Rules) : List Text → Option (List Given × List Text)
  | [] => some ([], [])
  | w :: rest =>
    if w = "--" then some ([], rest)
    else if isOption w then
      match word? r w with
      | none => none
      | some ⟨given, none⟩ => (read? r rest).map fun (os, as) => (given ++ os, as)
      | some ⟨given, some k⟩ =>
        match rest with
        | [] => none
        | v :: rest' => (read? r rest').map fun (os, as) => (given ++ (k, v) :: os, as)
    else if r.interspersed then (read? r rest).map fun (os, as) => (os, w :: as)
    else some ([], w :: rest)

/-- Whether an option is given. -/
def has (k : Kind) (os : List Given) : Bool := os.any fun o => o.1 == k

/-- The last value of an option. -/
def value? (k : Kind) (os : List Given) : Option Text :=
  (os.reverse.find? fun o => o.1 == k).map Prod.snd

/-- The last answer about darkness. -/
def dark? (os : List Given) : Option Bool :=
  (os.reverse.find? fun o => o.1 == .dark || o.1 == .light).map fun o => o.1 == .dark

end Options

/-- A command with its options. -/
inductive Command
  | newTheme (directory : Text) (name : Option Text) (dark : Option Bool)
  | preview (name : Text) (dark : Option Bool)
  | listTemplates
deriving DecidableEq, Repr

/-- What is wanted: help, a command, or nothing that makes sense. -/
inductive Intent
  | misuse
  | help
  | command (c : Command)
deriving DecidableEq, Repr

namespace Command

open Options

/-- The names of the commands. -/
def names : List Text := ["new-theme", "preview", "list-templates"]

/-- The options of commands that take a theme. -/
def themeRules : Rules :=
  ⟨[("--help", .help), ("--name", .name), ("-n", .name), ("--dark", .dark), ("--light", .light)],
    true⟩

/-- The options of commands that take none but help. -/
def plainRules : Rules := ⟨[("--help", .help)], true⟩

/-- Whether a directory for new files is acceptable: nothing, or a directory, may be there. -/
def acceptsDirectory (fs : FileSystem) (t : Text) : Bool :=
  match fs.find? (FilePath.ofText t) with
  | .ok (some (.file _ _)) => !FilePath.isStep ((t.splitOn '/').getLastD [])
  | .ok _ | .error (.system _) => true
  | .error _ => false

/-- The directory that is meant when none is given. -/
def defaultDirectory : Text := "."

/-- What words after the name of a command ask for. -/
def read (fs : FileSystem) (name : Text) (words : List Text) : Intent :=
  match read? (if name = "list-templates" then plainRules else themeRules) words with
  | none => .misuse
  | some (os, as) =>
    if has .help os then .help
    else if name = "new-theme" then
      match as with
      | [] => .command (.newTheme defaultDirectory (value? .name os) (dark? os))
      | [d] =>
        if acceptsDirectory fs d then .command (.newTheme d (value? .name os) (dark? os))
        else .misuse
      | _ => .misuse
    else if as ≠ [] then .misuse
    else if name = "preview" then
      match value? .name os with
      | some n => .command (.preview n (dark? os))
      | none => .misuse
    else .command .listTemplates

end Command

/-- What a command line asks for, and whether details are to be logged. -/
structure Invocation where
  isDebug : Bool
  intent : Intent
deriving DecidableEq, Repr

namespace Invocation

open Options

/-- The program's own options. -/
def rules : Rules := ⟨[("--help", .help), ("--debug", .debug)], false⟩

/-- What the words of a command line ask for. The program's own options take effect once the
command is known. -/
def read (fs : FileSystem) (words : List Text) : Invocation :=
  match read? rules words with
  | none => ⟨false, .misuse⟩
  | some (os, as) =>
    if has .help os then ⟨false, .help⟩
    else
      match as with
      | [] => ⟨false, .misuse⟩
      | name :: rest =>
        if Command.names.contains name then ⟨has .debug os, Command.read fs name rest⟩
        else ⟨false, .misuse⟩

end Invocation

end ThemeForge

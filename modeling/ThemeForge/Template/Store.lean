import ThemeForge.Files.Change
import ThemeForge.Template.Engine

/-!
# The template store

Templates are looked for in a directory of the user first, if one is set, and then among those that
come with the program. A template that was found is kept under the name it was asked for; one of
the user is looked for again when its file has changed.

* `Bundled.templates`: the templates that come with the program;
* `TemplateStore`, `TemplateStore.get?`, `TemplateStore.list`: finding and listing templates;
* `TemplateStore.expand?`: expanding a template, which may take others from the store.
-/

namespace ThemeForge

/-- The source of the template for theme files. -/
def Bundled.themeSource : Text := Text.concat
  ["\x7b\n  \"name\": \"\x7b\x7b NAME | json_string \x7d\x7d\",\n",
    "  \"dark\": \x7b\x7b IS_DARK \x7d\x7d,\n  \"author\": \"\",\n",
    "  \"editorScheme\": \"/Default.xml\",\n  \"ui\": \x7b\n  \x7d\n\x7d\n"]

/-- The templates that come with the program, by name. -/
def Bundled.templates : List (Text × Text) := [("ThemeJson.json", Bundled.themeSource)]

/-- Where a template comes from. -/
inductive TemplateOrigin
  | bundled
  | user
deriving DecidableEq, Repr

/-- The word for an origin. -/
def TemplateOrigin.word : TemplateOrigin → Text
  | .bundled => "bundled"
  | .user => "user"

/-- A template that is kept: the stamp of its file, if it is one of the user, and the template. -/
structure KeptTemplate where
  stamp : Option Nat
  template : Template
deriving Repr

/-- Why a template cannot be taken from the store. -/
inductive StoreFault
  | notFound
  | source (f : Template.SourceFault)
  | decoding (f : Utf8.DecodeFault)
  | crash (c : Crash)
deriving DecidableEq, Repr

/-- The fault of the store that a fault of the engine means. -/
def StoreFault.ofLoad : Template.LoadFault → StoreFault
  | .source f => .source f
  | .crash c => .crash c

/-- A store: the user's directory, if there is one, and the templates found so far. -/
structure TemplateStore where
  directory : Option FilePath
  kept : List (Text × KeptTemplate)
deriving Repr

namespace TemplateStore

/-- A new store; an empty directory counts as none. -/
def new (directory : Option Text) : TemplateStore :=
  ⟨(directory.filter fun d => !d.isEmpty).map FilePath.ofText, []⟩

/-- The steps that a name takes down from the directory of a store, unless it goes up. -/
def steps? (name : Text) : Option (List Text) :=
  let pieces := name.splitOn '/'
  if pieces.contains ".." then none else some (pieces.filter FilePath.isStep)

/-- The path of a user's template. -/
def userPath? (s : TemplateStore) (steps : List Text) : Option FilePath :=
  s.directory.map fun d => { d with names := d.names ++ steps }

/-- The user's file for a name: its content and its stamp. -/
def userFile? (s : TemplateStore) (fs : FileSystem) (name : Text) : Option (Bytes × Nat) := do
  let path ← s.userPath? (← steps? name)
  fs.file? path

/-- The source of a bundled template. -/
def bundledSource? (name : Text) : Option Text := do
  Bundled.templates.lookup (Text.join "/" (← steps? name))

section Engine

variable [Template.Engine]

/-- A template as it is on disk or bundled. -/
def load? (s : TemplateStore) (fs : FileSystem) (name : Text) : Except StoreFault KeptTemplate :=
  match s.userFile? fs name with
  | some (bytes, stamp) => do
    let text ← (Utf8.decode? bytes).mapError .decoding
    let t ← (Template.compile? (some name) text.universalNewlines).mapError .ofLoad
    return ⟨some stamp, t⟩
  | none =>
    match bundledSource? name with
    | some text => do
      let t ← (Template.compile? (some name) text).mapError .ofLoad
      return ⟨none, t⟩
    | none => .error .notFound

/-- Whether a template that is kept is still what its file says; bundled ones do not change. -/
def isFresh (s : TemplateStore) (fs : FileSystem) (name : Text) (k : KeptTemplate) : Bool :=
  match k.stamp with
  | none => true
  | some stamp => ((s.userFile? fs name).map Prod.snd) == some stamp

/-- The template for a name: the one that is kept while it is fresh, otherwise a new one. -/
def find? (s : TemplateStore) (fs : FileSystem) (name : Text) : Except StoreFault KeptTemplate :=
  match s.kept.lookup name with
  | some k => if s.isFresh fs name k then .ok k else s.load? fs name
  | none => s.load? fs name

/-- Keeps a template. -/
def keep (s : TemplateStore) (name : Text) (k : KeptTemplate) : TemplateStore :=
  { s with kept := (name, k) :: s.kept.filter fun e => e.1 != name }

/-- The template for a name, which is kept. -/
def get? (s : TemplateStore) (fs : FileSystem) (name : Text) :
    TemplateStore × Except StoreFault Template :=
  match s.find? fs name with
  | .ok k => (s.keep name k, .ok k.template)
  | .error f => (s, .error f)

/-- The store as a library for expansions. -/
def library (s : TemplateStore) (fs : FileSystem) : Template.Library := fun name =>
  match s.find? fs name with
  | .ok k => .ok (some k.template)
  | .error .notFound => .ok none
  | .error (.source f) => .error (.template (.source f.problem))
  | .error (.decoding f) => .error (.decoding f)
  | .error (.crash c) => .error (.crash c)

/-- Keeps the templates of several names. -/
def keepAll (s : TemplateStore) (fs : FileSystem) (names : List Text) : TemplateStore :=
  names.foldl (fun s n => (s.get? fs n).1) s

/-- Expands a template; those it takes from the store are kept. -/
def expand? (s : TemplateStore) (fs : FileSystem) (t : Template) (names : List (Text × Value)) :
    TemplateStore × Except Template.RenderFault Text :=
  let (result, used) := t.expand? (s.library fs) names
  (s.keepAll fs used, result)

end Engine

/-! ## Listing -/

/-- The names of the user's templates. Directories whose path is too long are not looked into. -/
def userNames (s : TemplateStore) (fs : FileSystem) : List Text :=
  match s.directory with
  | none => []
  | some d =>
    if fs.hasDirectory d then
      match fs.locate d with
      | .ok l =>
        ((fs.filesBelow l).filter fun names => fs.hasDirectory (d.down names.dropLast)).map
          FileSystem.namesText
      | .error _ => []
    else []

/-- Puts a name into a list that is sorted by name; an equal name is replaced. -/
def insertSorted (e : Text × TemplateOrigin) :
    List (Text × TemplateOrigin) → List (Text × TemplateOrigin)
  | [] => [e]
  | f :: rest =>
    match Text.compare e.1 f.1 with
    | .lt => e :: f :: rest
    | .eq => e :: rest
    | .gt => f :: insertSorted e rest

/-- All templates by name; one of the user hides a bundled one. -/
def list (s : TemplateStore) (fs : FileSystem) : List (Text × TemplateOrigin) :=
  let bundled := Bundled.templates.map fun e => (e.1, TemplateOrigin.bundled)
  let user := (s.userNames fs).map fun n => (n, TemplateOrigin.user)
  (bundled ++ user).foldl (fun l e => insertSorted e l) []

end TemplateStore

end ThemeForge

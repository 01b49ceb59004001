import ThemeForge.World.Basic

/-!
# Rendering

Templates of the store in use are rendered, and the text is written into a new file. A file that
exists is never touched: the text is complete before anything happens on disk, and the file is
created only if nothing is there.

* `Run.template`: the template for a name;
* `Run.render`: the text of a template, which ends in a line end;
* `Run.draft`, `Run.place`, `Run.create`: a new file with that text, in two steps and as a whole.
-/

namespace ThemeForge

/-- The logger of the template store. -/
def Logger.store : Text := "themekit.utils.template_store"

/-- The logger of rendering. -/
def Logger.rendering : Text := "themekit.utils.template_renderer"

/-- The values of template properties, by name. -/
abbrev TemplateValues := List (Text × Value)

/-- Properties as values. -/
def Properties.toValues (p : Properties) : TemplateValues := p.map fun e => (e.1, .text e.2)

namespace Run

variable [Template.Engine]

/-- The failure that a fault of the store means for a name. -/
def storeFailure (name : Text) : StoreFault → Failure
  | .notFound => .templateNotFound name
  | .source f => .rendering (.source name f)
  | .decoding f => .unhandled (.decoding f)
  | .crash c => .unhandled (.crash c)

/-- The failure that a source without a name means. -/
def loadFailure : Template.LoadFault → Failure
  | .source f => .unhandled (.source f)
  | .crash c => .unhandled (.crash c)

/-- The template of the store for a name. -/
def template (name : Text) : Run Template := do
  note LogLevel.debug Logger.store (Text.concat ["Resolving template: ", name]) none
  let w ← get
  let (store, found) := w.store.get? w.files name
  setStore store
  ofExcept (storeFailure name) found

/-- A template from its source, which has no name. -/
def templateOf (source : Text) : Run Template :=
  ofExcept loadFailure (Template.compile? none source)

/-- The failure that a fault of expansion means for a template. -/
def expansionFailure (t : Template) : Template.RenderFault → Failure
  | .template p => .rendering (.expansion t.name p)
  | .operation f => .unhandled (.operation f)
  | .decoding f => .unhandled (.decoding f)
  | .nesting => .unhandled .nesting
  | .crash c => .unhandled (.crash c)

/-- The name by which a template refers to itself. -/
def ownName : Text := "self"

/-- A text with a line end. -/
def withLineEnd (t : Text) : Text := if t.endsWith "\n" then t else t ++ "\n"

/-- The text of a template for given values, which may not bear the template's own name. -/
def render (t : Template) (values : TemplateValues) : Run Text := do
  if values.any (fun e => e.1 == ownName) then unhandled .ownName
  let w ← get
  let (store, text) := w.store.expand? w.files t values
  setStore store
  return withLineEnd (← ofExcept (expansionFailure t) text)

/-- The failure to make a directory. -/
def directoryFailure (path : FilePath) (f : FileSystem.DirectoryFault) : Failure :=
  match f.fault with
  | .system e => .writing (.directory path f.path e)
  | fault => .unhandled (.ofPath path fault)

/-- The failure to create a file. -/
def creationFailure (path : FilePath) : PathFault → Failure
  | .system .exists => .fileExists path
  | .system e => .writing (.creation path e)
  | f => .unhandled (.ofPath path f)

/-- Makes a directory and those above it, as far as they are missing. -/
def makeDirectories (path : FilePath) : Run Unit := do
  let (fs, result) := (← get).files.makeDirectories path
  setFiles fs
  ofExcept (directoryFailure path) result

/-- Writes bytes into a new file. If the disk is full, the file is removed again. -/
def writeNew (path : FilePath) (bytes : Bytes) (diskFull : Bool) : Run Unit := do
  let created := (← get).files.createFile path (if diskFull then [] else bytes)
  let fs ← ofExcept (creationFailure path) created
  if diskFull then
    setFiles (fs.removeFile path)
    throw (.writing (.writing path .noSpace))
  else setFiles fs

/-- The bytes of a new file: the text of a template, if the file has a bare name. -/
def draft (t : Template) (fileName : Text) (values : TemplateValues) : Run Bytes := do
  if !FilePath.isBareName fileName then throw (.rendering (.fileName fileName))
  let text ← render t values
  ofExcept (fun f => .rendering (.encoding t.name f)) text.encode?

/-- Writes bytes into a new file of a directory, which is made if it is missing. -/
def place (directory : FilePath) (fileName : Text) (bytes : Bytes) (diskFull : Bool) :
    Run Unit := do
  makeDirectories directory
  writeNew (directory.child fileName) bytes diskFull

/-- The name of a template as log data. -/
def nameValue (t : Template) : Value := Value.ofText? t.name

/-- The record about a new file. -/
def noteCreated (t : Template) (path : FilePath) : Run Unit :=
  note LogLevel.info Logger.rendering
    (Text.concat ["Created '", path.text, "' from template '", Failure.templateName t.name, "'"])
    (some (.mapping [(.text "path", .text path.text), (.text "template", nameValue t)]))

/-- Renders a template into a new file of a directory, which is made if it is missing. -/
def create (t : Template) (fileName : Text) (values : TemplateValues) (directory : Text)
    (diskFull : Bool) : Run FilePath := do
  let bytes ← draft t fileName values
  let path := FilePath.ofText directory
  place path fileName bytes diskFull
  noteCreated t (path.child fileName)
  return path.child fileName

end Run

end ThemeForge

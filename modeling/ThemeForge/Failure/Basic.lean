import ThemeForge.Failure.Family
import ThemeForge.Files.Create
import ThemeForge.Log.Root
import ThemeForge.Template.Store
import ThemeForge.Theme.Generator

/-!
# Failures

What can go wrong, by cause. Most failures are handled where the program meets its user; the
others (`Failure.Unhandled`) are not, and end it.

* `Failure`: the failures; `Failure.message`: what is reported;
* `Failure.IsHandled`: the failures that are reported in an orderly way;
* `Failure.family?`: the family of a handled failure.
-/

namespace ThemeForge

namespace Failure

/-- What is wrong with a configuration. -/
inductive Configuration
  | malformed (report : Text)
  | notMapping
  | invalid (problems : List Problem) (report : Text)
deriving DecidableEq, Repr

/-- What is wrong with a template or its use. -/
inductive Rendering
  | fileName (name : Text)
  | source (template : Text) (f : Template.SourceFault)
  | expansion (template : Option Text) (p : Template.RenderProblem)
  | encoding (template : Option Text) (f : Utf8.EncodeFault)
deriving DecidableEq, Repr

/-- What is wrong with the place of a new file. -/
inductive Writing
  | directory (path : FilePath) (failing : FilePath) (e : SystemError)
  | creation (path : FilePath) (e : SystemError)
  | writing (path : FilePath) (e : SystemError)
deriving DecidableEq, Repr

/-- Why entries of one mapping cannot be taken over from a value. -/
inductive Overlay
  | notIterable (kind : Text)
  | element (index : Nat)
  | elementLength (index length : Nat)
  | unhashable (kind : Text)
deriving DecidableEq, Repr

/-- The wording of an overlay fault. -/
def Overlay.message : Overlay → Text
  | .notIterable kind => Text.concat ["'", kind, "' object is not iterable"]
  | .element index => Text.concat
    ["cannot convert dictionary update sequence element #", Text.ofNat index, " to a sequence"]
  | .elementLength index length => Text.concat
    ["dictionary update sequence element #", Text.ofNat index, " has length ", Text.ofNat length,
      "; 2 is required"]
  | .unhashable kind => Text.concat ["unhashable type: '", kind, "'"]

/-- What nothing handles. -/
inductive Unhandled
  | fileName (f : FileName.Fault)
  | operation (f : Template.OperationFault)
  | nesting
  | source (f : Template.SourceFault)
  | ownName
  | decoding (f : Utf8.DecodeFault)
  | encoding (f : Utf8.EncodeFault)
  | zeroByte
  | system (e : SystemError) (path : FilePath)
  | overlay (f : Overlay)
  | noSection (kind : Text)
  | longInteger
  | level (f : RootLogger.LevelFault)
  | crash (c : Crash)
deriving DecidableEq, Repr

/-- A path that cannot be used, where nothing handles that. -/
def Unhandled.ofPath (path : FilePath) : PathFault → Unhandled
  | .system e => .system e path
  | .encoding f => .encoding f
  | .zeroByte => .zeroByte

/-- An error of the system and the path it concerns. -/
def systemMessage (e : SystemError) (path : FilePath) : Text :=
  Text.concat [e.message, ": ", path.text.quote]

/-- What is reported about an unhandled failure. -/
def Unhandled.message : Unhandled → Text
  | .fileName (.encoding f) => f.message
  | .fileName (.replacement f) => f.message
  | .operation f => f.message
  | .nesting => "maximum recursion depth exceeded"
  | .source f => f.problem.message
  | .ownName => "Template.render() got multiple values for argument 'self'"
  | .decoding f => f.message
  | .encoding f => f.message
  | .zeroByte => "embedded null byte"
  | .system e path => systemMessage e path
  | .overlay f => f.message
  | .noSection kind => Text.concat ["'", kind, "' object has no attribute 'get'"]
  | .longInteger => Text.concat ["Exceeds the limit (4300 digits) for integer string conversion; ",
      "use sys.set_int_max_str_digits() to increase the limit"]
  | .level f => f.message
  | .crash c => c.message

/-- The file that holds the configuration. -/
def configurationFile : Text := "config.yaml"

/-- What is reported about a configuration. -/
def Configuration.message : Configuration → Text
  | .malformed report => Text.concat ["Failed to parse ", configurationFile, ": ", report]
  | .notMapping => Text.concat [configurationFile, " must contain a mapping at the top level."]
  | .invalid _ report =>
    Text.concat ["Invalid configuration in ", configurationFile, ": ", report]

/-- The name of a template; the word for none stands for a template without name. -/
def templateName (n : Option Text) : Text := n.getD "None"

/-- What is reported about a template. -/
def Rendering.message : Rendering → Text
  | .fileName name => Text.concat ["Invalid file name: '", name, "'"]
  | .source template f => Text.concat ["Template '", template, "' has a syntax error on line ",
      Text.ofNat f.line, ": ", f.problem.message]
  | .expansion template p => Text.concat
    ["Failed to render template '", templateName template, "': ", p.message]
  | .encoding template f => Text.concat ["Template '", templateName template,
      "' produced text that is not valid UTF-8: ", f.message]

/-- What is reported about the place of a new file. -/
def Writing.message : Writing → Text
  | .directory path failing e => Text.concat
    ["Cannot create directory '", path.text, "': ", systemMessage e failing]
  | .creation path e => Text.concat
    ["Cannot create '", path.text, "': ", systemMessage e path]
  | .writing path e => Text.concat ["Failed to write '", path.text, "': ", e.message]

end Failure

/-- A failure. -/
inductive Failure
  | configuration (f : Failure.Configuration)
  | rejected (verdict : Verdict)
  | templateNotFound (name : Text)
  | rendering (f : Failure.Rendering)
  | fileExists (path : FilePath)
  | writing (f : Failure.Writing)
  | invalid (problems : List Problem)
  | unhandled (f : Failure.Unhandled)
deriving DecidableEq, Repr

namespace Failure

/-- The message of a verdict. -/
def verdictMessage (v : Verdict) : Text := v.message.getD "Invalid theme name"

/-- What is reported. -/
def message : Failure → Text
  | .configuration f => f.message
  | .rejected v => verdictMessage v
  | .templateNotFound name => Text.concat ["Template not found: '", name, "'"]
  | .rendering f => f.message
  | .fileExists path => Text.concat ["File already exists: '", path.text, "'"]
  | .writing f => f.message
  | .invalid _ => []
  | .unhandled f => f.message

/-- The family of a failure that is handled. -/
def family? : Failure → Option Family
  | .configuration _ => some .configuration
  | .rejected _ => some .validation
  | .templateNotFound _ => some .templateNotFound
  | .rendering _ => some .templateRender
  | .fileExists _ => some .fileExists
  | .writing _ => some .fileWrite
  | .invalid _ => none
  | .unhandled _ => none

/-- A failure that is reported in an orderly way. -/
def IsHandled (f : Failure) : Prop := f.family?.isSome

instance (f : Failure) : Decidable f.IsHandled := inferInstanceAs (Decidable (_ = true))

end Failure

end ThemeForge

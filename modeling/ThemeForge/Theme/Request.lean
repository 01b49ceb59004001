import ThemeForge.Schema.Coercion
import ThemeForge.Schema.Record

/-!
# Requests and their outcome

What a user asks for, what is made of it, and the verdict on its name.

* `ThemeRequest`: a name, exactly as entered, and whether the theme is dark;
* `GeneratedFile`: the file name and the template properties for a request;
* `Verdict`: the outcome of checking a name.
-/

namespace ThemeForge

/-- What the user asked for. -/
structure ThemeRequest where
  name : Text
  isDark : Bool
deriving DecidableEq, Repr

namespace ThemeRequest

/-- Checks a mapping as a request; themes are dark unless said otherwise. -/
def check : Value → Checked ThemeRequest :=
  Checked.model "ThemeRequest" fun m =>
    ((Checked.required m "name" Value.checkText).map ThemeRequest.mk).ap
      (Checked.field m "is_dark" true Value.checkFlag)

/-- The fields of a request. -/
def toRecord (r : ThemeRequest) : Record :=
  ⟨"ThemeRequest", true, [("name", .text r.name), ("is_dark", .bool r.isDark)]⟩

end ThemeRequest

/-- Template properties in order. -/
abbrev Properties := List (Text × Text)

/-- The properties as a mapping. -/
def Properties.toValue (p : Properties) : Value := .mapping (p.map fun e => (.text e.1, .text e.2))

/-- The file name and the template properties of a request. -/
structure GeneratedFile where
  fileName : Text
  properties : Properties
deriving DecidableEq, Repr

namespace GeneratedFile

/-- Checks a mapping as a generated file. -/
def check : Value → Checked GeneratedFile :=
  Checked.model "GeneratedFile" fun m =>
    ((Checked.required m "file_name" Value.checkText).map GeneratedFile.mk).ap
      (Checked.required m "properties" Value.checkTextMap)

/-- The fields of a generated file. -/
def toRecord (g : GeneratedFile) : Record :=
  ⟨"GeneratedFile", true, [("file_name", .text g.fileName), ("properties", g.properties.toValue)]⟩

end GeneratedFile

/-- What can be wrong with a name. -/
inductive NameIssue
  | empty
  | tooLong
deriving DecidableEq, Repr

namespace NameIssue

/-- The tag of an issue. -/
def tag : NameIssue → Text
  | .empty => "EmptyName"
  | .tooLong => "NameTooLong"

/-- The tags of all issues. -/
def tags : List Text := [tag .empty, tag .tooLong]

/-- Checks a value as the tag of an issue. -/
def check : Value → Checked NameIssue
  | .text t =>
    if t = tag .empty then .valid .empty
    else if t = tag .tooLong then .valid .tooLong
    else Checked.fail (.notChoice tags)
  | _ => Checked.fail (.notChoice tags)

end NameIssue

/-- The outcome of checking a name: it is acceptable if there is no issue. -/
structure Verdict where
  issue : Option NameIssue
  message : Option Text
deriving DecidableEq, Repr

namespace Verdict

/-- The name is acceptable. -/
def accepted : Verdict := ⟨none, none⟩

/-- The name has an issue. -/
def rejected (issue : NameIssue) (message : Text) : Verdict := ⟨some issue, some message⟩

/-- Whether the name is acceptable. -/
def isOk (v : Verdict) : Bool := v.issue.isNone

/-- The tag of the issue, null when there is none. -/
def issueValue (v : Verdict) : Value :=
  match v.issue with
  | some i => .text i.tag
  | none => .null

/-- The message, null when there is none. -/
def messageValue (v : Verdict) : Value :=
  match v.message with
  | some t => .text t
  | none => .null

/-- Checks a mapping as a verdict. -/
def check : Value → Checked Verdict :=
  Checked.model "ValidationResult" fun m =>
    ((Checked.field m "issue" none (Checked.optional NameIssue.check)).map Verdict.mk).ap
      (Checked.field m "message" none (Checked.optional Value.checkText))

/-- The fields of a verdict. -/
def toRecord (v : Verdict) : Record :=
  ⟨"ValidationResult", true, [("issue", v.issueValue), ("message", v.messageValue)]⟩

end Verdict

end ThemeForge

import ThemeForge.FileName.Stem
import ThemeForge.Settings.Basic
import ThemeForge.Theme.Request

/-!
# From a request to a file

The rules that turn a theme request into a file name and template properties.

* `Theme.judge`: the verdict on a name;
* `Theme.properties`: the values of the template's placeholders;
* `ThemeDefaults.judge`, `ThemeDefaults.fileName?`, `ThemeDefaults.generate?`: the same under
  configured defaults.
-/

namespace ThemeForge

namespace Theme

/-- The message about an empty name. -/
def emptyMessage : Text := "Theme name is empty"

/-- The message about a name that is too long. -/
def tooLongMessage (limit : Int) : Text :=
  Text.concat ["Theme name must be at most ", Text.ofInt limit, " characters"]

/-- The verdict on a name: something must be left after trimming, and not more than `limit` code
points of it. -/
def judge (name : Text) (limit : Option Int) : Verdict :=
  let trimmed := name.trim
  if trimmed = [] then .rejected .empty emptyMessage
  else
    match limit with
    | some n =>
      if (trimmed.length : Int) > n then .rejected .tooLong (tooLongMessage n) else .accepted
    | none => .accepted

/-- The word for a boolean in templates. -/
def flagWord (b : Bool) : Text := if b then "true" else "false"

/-- The template properties of a theme; the name is passed on untouched. -/
def properties (name : Text) (isDark : Bool) : Properties :=
  [("NAME", name), ("IS_DARK", flagWord isDark)]

end Theme

/-- Why a request gives no file. -/
inductive GenerateFault
  | rejected (verdict : Verdict)
  | fileName (f : FileName.Fault)
deriving DecidableEq, Repr

namespace ThemeDefaults

/-- The verdict on a name under the configured bound. -/
def judge (d : ThemeDefaults) (name : Text) : Verdict := Theme.judge name d.maxNameLength

/-- The stem for a name under the configured replacement. -/
def stem? (d : ThemeDefaults) (name : Text) : Except FileName.Fault Text :=
  FileName.sanitize? name d.replacement

/-- The file name for a name under the configured replacement. -/
def fileName? (d : ThemeDefaults) (name : Text) : Except FileName.Fault Text :=
  FileName.ofName? name d.replacement

/-- The file name and the properties for a request. -/
def generate? (d : ThemeDefaults) (r : ThemeRequest) : Except GenerateFault GeneratedFile := do
  let verdict := d.judge r.name
  if verdict.isOk then
    let fileName ← (d.fileName? r.name).mapError .fileName
    return ⟨fileName, Theme.properties r.name r.isDark⟩
  else throw (.rejected verdict)

end ThemeDefaults

end ThemeForge

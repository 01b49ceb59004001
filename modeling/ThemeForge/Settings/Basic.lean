import ThemeForge.FileName.Legal
import ThemeForge.Schema.Coercion
import ThemeForge.Schema.Record

/-!
# Settings

The typed view of a configuration, in three sections. Keys that no section declares are ignored.

* `LoggingSettings`, `TemplateSettings`, `ThemeDefaults`: the sections, with their checks;
* `Settings`, `Settings.check`, `Settings.toValue`: the whole, read from and written as a value;
* `ThemeDefaults.IsValid`: the two rules that checked defaults obey.
-/

namespace ThemeForge

/-- A text that may be absent, as a value. -/
def Value.ofText? : Option Text → Value
  | some t => .text t
  | none => .null

/-- An integer that may be absent, as a value. -/
def Value.ofInt? : Option Int → Value
  | some n => .int n
  | none => .null

/-- The level of logging unless configured otherwise. -/
def defaultLevel : Text := "info"

/-- The section on logging. -/
structure LoggingSettings where
  level : Text := defaultLevel
deriving DecidableEq, Repr

namespace LoggingSettings

/-- Checks a mapping as the section on logging. -/
def check : Value → Checked LoggingSettings :=
  Checked.model "LoggingSettings" fun m =>
    (Checked.field m "level" defaultLevel Value.checkText).map LoggingSettings.mk

/-- The fields of the section. -/
def toRecord (s : LoggingSettings) : Record :=
  ⟨"LoggingSettings", false, [("level", .text s.level)]⟩

end LoggingSettings

/-- The name of the template of theme files. -/
def defaultTemplate : Text := "ThemeJson.json"

/-- The section on templates: a directory that is searched first, and the name of the template
for new themes. -/
structure TemplateSettings where
  directory : Option Text := none
  themeTemplate : Text := defaultTemplate
deriving DecidableEq, Repr

namespace TemplateSettings

/-- Checks a mapping as the section on templates. -/
def check : Value → Checked TemplateSettings :=
  Checked.model "TemplateSettings" fun m =>
    ((Checked.field m "dir" none (Checked.optional Value.checkText)).map TemplateSettings.mk).ap
      (Checked.field m "theme_json" defaultTemplate Value.checkText)

/-- The fields of the section. -/
def toRecord (s : TemplateSettings) : Record :=
  ⟨"TemplateSettings", false,
    [("dir", Value.ofText? s.directory), ("theme_json", .text s.themeTemplate)]⟩

end TemplateSettings

/-- The section on new themes: the initial answer about darkness, what takes the place of illegal
code points in file names, and a bound on the length of names. -/
structure ThemeDefaults where
  dark : Bool := true
  replacement : Text := []
  maxNameLength : Option Int := none
deriving DecidableEq, Repr

namespace ThemeDefaults

/-- The rules for defaults. -/
structure IsValid (d : ThemeDefaults) : Prop where
  replacement_legal : FileName.IsLegal d.replacement
  length_pos : ∀ n ∈ d.maxNameLength, 0 < n

/-- A replacement that keeps file names legal. -/
def checkReplacement (v : Value) : Checked Text :=
  v.checkText.ensure (fun t => decide (FileName.IsLegal t))
    "Replacement must not contain characters illegal in file names."

/-- No bound, or a positive one. -/
def checkLength (v : Value) : Checked (Option Int) :=
  (Checked.optional Value.checkInteger v).ensure (fun n => n.all (0 < ·))
    "Maximum name length must be a positive integer."

/-- Checks a mapping as the section on new themes. -/
def check : Value → Checked ThemeDefaults :=
  Checked.model "ThemeDefaults" fun m =>
    (((Checked.field m "default_dark" true Value.checkFlag).map ThemeDefaults.mk).ap
      (Checked.field m "replacement" [] checkReplacement)).ap
      (Checked.field m "max_name_length" none checkLength)

/-- The fields of the section. -/
def toRecord (d : ThemeDefaults) : Record :=
  ⟨"ThemeDefaults", false, [("default_dark", .bool d.dark), ("replacement", .text d.replacement),
    ("max_name_length", Value.ofInt? d.maxNameLength)]⟩

end ThemeDefaults

/-- A configuration that has been checked. -/
structure Settings where
  logging : LoggingSettings := {}
  templates : TemplateSettings := {}
  themes : ThemeDefaults := {}
deriving DecidableEq, Repr

namespace Settings

/-- Checks a mapping as settings. -/
def check : Value → Checked Settings :=
  Checked.model "ThemeKitSettings" fun m =>
    (((Checked.field m "logging" {} LoggingSettings.check).map Settings.mk).ap
      (Checked.field m "templates" {} TemplateSettings.check)).ap
      (Checked.field m "themes" {} ThemeDefaults.check)

/-- The fields of settings; each section is a mapping. -/
def toRecord (s : Settings) : Record :=
  ⟨"ThemeKitSettings", false, [("logging", s.logging.toRecord.toValue),
    ("templates", s.templates.toRecord.toValue), ("themes", s.themes.toRecord.toValue)]⟩

/-- Settings as a mapping of mappings. -/
def toValue (s : Settings) : Value := s.toRecord.toValue

end Settings

end ThemeForge

import ThemeForge.Proofs.Template.Bundled
import ThemeForge.Proofs.Theme.Plan

/-!
# The file of a theme

With the default template, and unless the user has one of that name, the file of a theme is a JSON
document that says what was asked for.

* `ThemeAction.plan?_of_find?`, `ThemeAction.plan?_default`: what is planned for a request;
* `Failure.IsOfPlace`: failures for which neither the request nor the template is to blame;
* **`perform_default`**: the file that is written, and which failures remain.
-/

namespace ThemeForge

open Bundled

theorem bundledSource?_defaultTemplate :
    TemplateStore.bundledSource? defaultTemplate = some themeSource := by
  decide

/-- The failure concerns the place of a file. -/
def Failure.IsOfPlace (f : Failure) : Prop :=
  (∃ path, f = .fileExists path) ∨ (∃ e, f = .writing e) ∨
    ∃ path e, f = .unhandled (.ofPath path e)

theorem Run.Placed.isOfPlace {d : FilePath} {n : Text} {bytes : Bytes} {diskFull : Bool}
    {fs fs' : FileSystem} {f : Failure} (h : Placed d n bytes fs diskFull (.error f) fs') :
    f.IsOfPlace := by
  generalize ho : Except.error f = o at h
  cases h with
  | unmade _ _ =>
    cases ho
    unfold directoryFailure
    split
    · exact .inr (.inl ⟨_, rfl⟩)
    · exact .inr (.inr ⟨_, _, rfl⟩)
  | refused _ _ _ =>
    cases ho
    unfold creationFailure
    split
    · exact .inl ⟨_, rfl⟩
    · exact .inr (.inl ⟨_, rfl⟩)
    · exact .inr (.inr ⟨_, _, rfl⟩)
  | undone _ =>
    cases ho
    exact .inr (.inl ⟨_, rfl⟩)
  | written _ => exact nomatch ho

namespace ThemeAction

variable {a : ThemeAction} {r : ThemeRequest} {s : TemplateStore} {fs : FileSystem}

/-- With the bundled template, a file with the text of the theme is planned, if its name is
bare. -/
theorem plan?_of_find?
    (hfound : s.find? fs a.template = .ok ⟨none, themeTemplate (some a.template)⟩)
    {g : GeneratedFile} (hg : a.defaults.generate? r = .ok g)
    (hbare : FilePath.isBareName g.fileName = true) :
    a.plan? r s fs = .ok (g.fileName, (themeText r.name r.isDark).bytes) := by
  have hget : (s.get? fs a.template).2 = .ok (themeTemplate (some a.template)) := by
    rw [TemplateStore.get?, hfound]
  have hdraft : Run.draft? (s.library fs) (themeTemplate (some a.template))
      g.fileName g.properties.toValues = .ok (themeText r.name r.isDark).bytes := by
    rw [ThemeDefaults.properties_of_generate? hg]
    exact Run.draft?_eq_ok_iff.mpr ⟨hbare, _, rendered?_theme _ _ _ _,
      Text.encode?_eq_ok_iff.mpr ⟨isEncodable_themeText _ _, rfl⟩⟩
  rw [plan?_of_get?_ok hg hget, hdraft]
  rfl

theorem plan?_default (ha : a.template = defaultTemplate) (hs : s.Reached)
    (huser : s.userFile? fs defaultTemplate = none) {g : GeneratedFile}
    (hg : a.defaults.generate? r = .ok g) (hbare : FilePath.isBareName g.fileName = true) :
    a.plan? r s fs = .ok (g.fileName, (themeText r.name r.isDark).bytes) := by
  rw [← ha] at huser
  exact plan?_of_find? (find?_bundled hs huser (ha ▸ bundledSource?_defaultTemplate)) hg hbare

end ThemeAction

/-- **With the default template, the file of a theme is a JSON document that says what was asked
for.** With checked defaults and an accepted name it is written, unless its place is to blame. -/
theorem perform_default {a : ThemeAction} {p : Provider} {r : ThemeRequest} {directory : Text}
    {diskFull : Bool} {w : World} (ha : a.template = defaultTemplate) (hs : w.store.Reached)
    (huser : w.store.userFile? w.files defaultTemplate = none)
    (hrequest : ((a.request p).result w).1 = .ok (some r)) :
    (∀ path w', (a.perform p directory diskFull).result w = (.ok (some path), w') →
      ∃ bytes stamp text, w'.files.file? path = some (bytes, stamp) ∧
        Utf8.decode? bytes = .ok text ∧ text.endsWith "\n" = true ∧
        Json.parse? text = some (.mapping [(.text "name", .text r.name.joinPairs),
          (.text "dark", .bool r.isDark), (.text "author", .text ""),
          (.text "editorScheme", .text "/Default.xml"), (.text "ui", .mapping [])]) ∧
        ((r.name.IsChain fun c d => ¬ (c.IsHigh ∧ d.IsLow)) → r.name.joinPairs = r.name)) ∧
    ∀ v, ThemeDefaults.check v = .valid a.defaults → ¬ a.defaults.Refuses r.name →
      (∃ path, ((a.perform p directory diskFull).result w).1 = .ok (some path)) ∨
        ∃ f, ((a.perform p directory diskFull).result w).1 = .error f ∧ f.IsOfPlace := by
  constructor
  · intro path w' hperform
    rcases hplan : a.plan? r w.store w.files with f | ⟨n, bytes⟩
    · obtain ⟨w'', hw'', -⟩ := ThemeAction.perform_of_plan_error directory diskFull hrequest hplan
      rw [hw''] at hperform
      exact nomatch hperform
    · obtain ⟨placed, o, v, w'', -, -, hplaced, rfl, hw'', -, -⟩ :=
        ThemeAction.perform_of_plan_ok directory diskFull hrequest hplan
      obtain ⟨g, hg, rfl, hbare⟩ := ThemeAction.exists_of_plan?_eq_ok hplan
      rw [ThemeAction.plan?_default ha hs huser hg hbare] at hplan
      cases hplan
      obtain ⟨ho, rfl⟩ := Prod.mk.inj (hw''.symm.trans hperform)
      cases placed with
      | error f => exact nomatch ho
      | ok u =>
        cases ho
        obtain ⟨made, l, hfree, hfiles⟩ := hplaced.of_ok
        refine ⟨_, made.clock, themeText r.name r.isDark, ?_,
          Text.decode?_bytes (isEncodable_themeText _ _), endsWith_themeText _ _,
          parse?_themeText _ _, Text.joinPairs_eq_self⟩
        rw [hfiles]
        exact hfree.file?_putFile _
  · intro v hv haccepted
    obtain ⟨fileName, hname, hportable⟩ :=
      ThemeDefaults.exists_fileName? (ThemeDefaults.isValid_of_check hv) r.name
    have hg := ThemeDefaults.generate?_of_not_refuses haccepted hname
    have hplan := ThemeAction.plan?_default ha hs huser hg hportable.isBareName
    obtain ⟨placed, o, -, w', -, -, hplaced, rfl, hw', -, -⟩ :=
      ThemeAction.perform_of_plan_ok directory diskFull hrequest hplan
    rw [hw']
    cases placed with
    | ok u => exact .inl ⟨_, rfl⟩
    | error f => exact .inr ⟨f, rfl, hplaced.isOfPlace⟩

/-- A name with a quote, a backslash, a control character, a placeholder and a lone surrogate; the
user has another template. Once the file is written, and once the disk is full. -/
theorem perform_default_surrogate :
    let a : ThemeAction := {}
    let name : Text := ("\\\"\x07 \x7b\x7b NAME \x7d\x7d" : Text) ++ [Code.ofNat 0xdc00]
    let r : ThemeRequest := ⟨name, false⟩
    let w := sampleWorld "tpl"
    let perform (full : Bool) := a.perform (.given r) "out" full
    let path : FilePath := ⟨"", ["out", "\x7b\x7b NAME \x7d\x7d.theme.json"]⟩
    a.template = defaultTemplate ∧ w.store.Reached ∧
    w.store.userFile? w.files defaultTemplate = none ∧
    ((a.request (.given r)).result w).1 = .ok (some r) ∧
    ThemeDefaults.check (.mapping []) = .valid a.defaults ∧ ¬ a.defaults.Refuses name ∧
    ((perform false).result w).1 = .ok (some path) ∧
    (∃ bytes stamp text, ((perform false).result w).2.files.file? path = some (bytes, stamp) ∧
      Utf8.decode? bytes = .ok text ∧ Json.parse? text = some (themeDocument name false)) ∧
    ∃ f, ((perform true).result w).1 = .error f ∧ f.IsOfPlace := by
  intro a name r w perform path
  have ha : a.template = defaultTemplate := rfl
  have hs : w.store.Reached := .new _
  have huser : w.store.userFile? w.files defaultTemplate = none := by decide
  have hrequest : ((a.request (.given r)).result w).1 = .ok (some r) := rfl
  have hcheck : ThemeDefaults.check (.mapping []) = .valid a.defaults := rfl
  have hname : ¬ a.defaults.Refuses name := by
    rw [← ThemeDefaults.isOk_judge]
    decide
  have hok : ((perform false).result w).1 = .ok (some path) := by decide +kernel
  have hfull : ((perform true).result w).1 = .error (.writing (.writing path .noSpace)) := by
    decide +kernel
  have hplace : ∃ f, ((perform true).result w).1 = .error f ∧ f.IsOfPlace := by
    rcases (perform_default ha hs huser hrequest).2 _ hcheck hname with ⟨other, hother⟩ | hplace
    · cases hfull.symm.trans hother
    · exact hplace
  rcases hr : (perform false).result w with ⟨o, w'⟩
  rw [hr] at hok
  obtain rfl : o = .ok (some path) := hok
  obtain ⟨bytes, stamp, text, hfile, htext, -, hdocument, -⟩ :=
    (perform_default ha hs huser hrequest).1 path w' hr
  exact ⟨ha, hs, huser, hrequest, hcheck, hname, rfl,
    ⟨bytes, stamp, text, hfile, htext, hdocument⟩, hplace⟩

end ThemeForge

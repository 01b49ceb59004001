import ThemeForge.Proofs.Command.Steps
import ThemeForge.Proofs.Theme.Plan

/-!
# What commands leave behind

A file is added if and only if a theme has been created, which the exit code tells; whatever else
happens, the regular files stay as they are.

* `ThemeAction.perform_cases`: performing the action adds a file, or has failed or been cancelled;
* `Command.newTheme_cases`: the same with exit codes;
* `Command.isQuiet_preview`, `Command.isQuiet_listTemplates`: the other commands;
* **`invocation_effect`**: all command lines but those that ask for help.
-/

namespace ThemeForge

open FileSystem

section Engine

variable [Template.Engine]

/-! ## Commands that only look -/

namespace Command

open Run

variable [Configuration.Format] [Terminal]

theorem isQuiet_preview (name : Text) (dark : Option Bool) (diskFull : Bool) :
    IsQuiet ((preview name dark).run diskFull) :=
  isCovered_handle World.Quiet.covers (isCovered_preview World.Quiet.covers name dark)

theorem isQuiet_listTemplates (diskFull : Bool) : IsQuiet (listTemplates.run diskFull) :=
  isCovered_handle World.Quiet.covers (isCovered_listTemplates World.Quiet.covers)

end Command

/-! ## Creating a theme -/

/-- Performing the action either returns the path of the only file that it adds, which lies in the
directory, or adds none. -/
theorem ThemeAction.perform_cases {a : ThemeAction} (ha : a.defaults.IsValid) (p : Provider)
    (directory : Text) (diskFull : Bool) {w : World} (htree : w.files.IsTree) :
    let r := (a.perform p directory diskFull).result w
    (∃ f, r.1 = .ok (some ((FilePath.ofText directory).child f)) ∧ FilePath.isBareName f = true ∧
      FileName.extension <:+ f ∧
      w.files.AddsFile r.2.files ((FilePath.ofText directory).child f)) ∨
    ((r.1 = .ok none ∨ ∃ f, r.1 = .error f) ∧ w.files.SameFiles r.2.files) := by
  intro r
  have hquietly {o : Except Failure (Option FilePath)} {w' : World} (hr : r = (o, w'))
      (hquiet : World.Quiet w w') (ho : o = .ok none ∨ ∃ f, o = .error f) :
      (r.1 = .ok none ∨ ∃ f, r.1 = .error f) ∧ w.files.SameFiles r.2.files := by
    rw [hr, hquiet.files]
    exact ⟨ho, .refl w.files⟩
  rcases hrequest : ((a.request p).result w).1 with f | _ | request
  · obtain ⟨w', hr, hquiet⟩ := perform_of_request_error directory diskFull hrequest
    exact .inr (hquietly hr hquiet (.inr ⟨f, rfl⟩))
  · obtain ⟨w', hr, hquiet⟩ := perform_of_cancelled directory diskFull hrequest
    exact .inr (hquietly hr hquiet (.inl rfl))
  · rcases hplan : a.plan? request w.store w.files with f | ⟨n, bytes⟩
    · obtain ⟨w', hr, hquiet⟩ := perform_of_plan_error directory diskFull hrequest hplan
      exact .inr (hquietly hr hquiet (.inr ⟨f, rfl⟩))
    · obtain ⟨placed, o, -, w', -, -, hplaced, rfl, hw', -, -⟩ :=
        perform_of_plan_ok directory diskFull hrequest hplan
      rw [show r = (_, w') from hw']
      cases placed with
      | error f => exact .inr ⟨.inr ⟨f, rfl⟩, hplaced.sameFiles htree⟩
      | ok u =>
        have hportable := isPortable_of_plan? ha hplan
        obtain ⟨stem, hstem, -⟩ := hportable.form
        exact .inl ⟨n, rfl, hportable.isBareName, ⟨stem, hstem.symm⟩, hplaced.addsFile⟩

/-- Creating a theme either adds a file in the directory, and the exit code is 0, or it adds none,
and the exit code is 1 unless a failure goes past it. -/
theorem Command.newTheme_cases [Configuration.Format] [Terminal] (directory : Text)
    (name : Option Text) (dark : Option Bool) (diskFull : Bool) {w : World}
    (htree : w.files.IsTree) :
    let r := ((Command.newTheme directory name dark).run diskFull).result w
    (r.1 = .ok 0 ∧ ∃ f, FilePath.isBareName f = true ∧ FileName.extension <:+ f ∧
      w.files.AddsFile r.2.files ((FilePath.ofText directory).child f)) ∨
    ((r.1 = .ok 1 ∨ ∃ f, r.1 = .error f ∧ ¬ f.IsHandled) ∧ w.files.SameFiles r.2.files) := by
  intro r
  have hended {f : Failure} {w' : World} (hr : r = ended f w')
      (hsame : w.files.SameFiles w'.files) :
      (r.1 = .ok 1 ∨ ∃ f, r.1 = .error f ∧ ¬ f.IsHandled) ∧ w.files.SameFiles r.2.files := by
    rw [hr, files_ended]
    exact ⟨(ended_fst f w').imp_right fun h => ⟨f, h⟩, hsame⟩
  obtain ⟨o, c, hsettings, hvalid⟩ := Run.exists_result_settings w
  rcases o with f | s
  · exact .inr (hended (result_run_of_settings_error hsettings _ _) (.refl w.files))
  have hcases := ThemeAction.perform_cases (a := .ofSettings s false) (hvalid s rfl)
    (provider name (dark.getD s.themes.dark)) directory diskFull
    (w := { w with configuration := c, store := .new s.templates.directory }) htree
  rcases hact : ((ThemeAction.ofSettings s false).perform
    (provider name (dark.getD s.themes.dark)) directory diskFull).result
      { w with configuration := c, store := .new s.templates.directory } with ⟨o, w₂⟩
  rw [hact] at hcases
  have hr := result_newTheme hsettings directory name dark diskFull hact
  rcases hcases with ⟨f, rfl, hbare, hextension, hadds⟩ | ⟨rfl | ⟨f, rfl⟩, hsame⟩
  · rw [show r = _ from hr]
    exact .inl ⟨rfl, f, hbare, hextension, hadds⟩
  · rw [show r = _ from hr]
    exact .inr ⟨.inl rfl, hsame⟩
  · exact .inr (hended hr hsame)

/-- **The exit code tells what is on disk.** Creating a theme ends with the exit code 0 if and only
if exactly one regular file was added, which lies in the directory and bears the extension of
themes; in every other case no regular file was touched, and the exit code is 1 unless a failure
goes past it. A command line that makes no sense has the exit code 2 and no effect, and **the other
commands touch nothing on disk**. -/
theorem invocation_effect [Configuration.Format] [Terminal] {w : World}
    (htree : w.files.IsTree) (words : List Text) (diskFull : Bool) :
    let i := Invocation.read w.files words
    let r := (i.run diskFull).result w
    (∀ directory name dark, i.intent = .command (.newTheme directory name dark) →
      (r.1 = .ok 0 ↔ ∃ f, FilePath.isBareName f = true ∧ FileName.extension <:+ f ∧
        w.files.AddsFile r.2.files ((FilePath.ofText directory).child f)) ∧
      (r.1 ≠ .ok 0 → (r.1 = .ok 1 ∨ ∃ f, r.1 = .error f ∧ ¬ f.IsHandled) ∧
        w.files.SameFiles r.2.files)) ∧
    (i.intent = .misuse → r = (.ok 2, w)) ∧
    ∀ name dark, i.intent = .command (.preview name dark) ∨ i.intent = .command .listTemplates →
      r.2.files = w.files := by
  intro i r
  have hrun {c : Command} (hi : i.intent = .command c) : r = (c.run diskFull).result w := by
    change (i.run diskFull).result w = _
    rw [Invocation.run, hi]
  refine ⟨fun directory name dark hi => ?_, fun hi => ?_, fun name dark hi => ?_⟩
  · have hcases := Command.newTheme_cases directory name dark diskFull htree
    rw [← hrun hi] at hcases
    rcases hcases with ⟨hok, hadds⟩ | ⟨hfailed, hsame⟩
    · exact ⟨iff_of_true hok hadds, fun h => absurd hok h⟩
    · refine ⟨iff_of_false ?_ ?_, fun _ => ⟨hfailed, hsame⟩⟩
      · rcases hfailed with h | ⟨f, h, -⟩
        · rw [h]
          exact (nomatch ·)
        · rw [h]
          exact (nomatch ·)
      · rintro ⟨f, -, -, hadds⟩
        exact hsame.not_addsFile hadds
  · change (i.run diskFull).result w = _
    rw [Invocation.run, hi]
    rfl
  · rcases hi with hi | hi
    · rw [hrun hi]
      exact (Command.isQuiet_preview name dark diskFull w).files
    · rw [hrun hi]
      exact (Command.isQuiet_listTemplates diskFull w).files

end Engine

/-- A light theme in a new directory, and the same on a full disk. -/
theorem invocation_effect_light :
    let w := sampleWorld "tpl"
    let words : List Text := ["--debug", "new-theme", "--light", "out/new", "-nA/B"]
    let r (full : Bool) := ((Invocation.read w.files words).run full).result w
    w.files.IsTree ∧ (Invocation.read w.files words).intent =
      .command (.newTheme "out/new" (some "A/B") (some false)) ∧
    (r false).1 = .ok 0 ∧ (∃ f, FilePath.isBareName f = true ∧ FileName.extension <:+ f ∧
      w.files.AddsFile (r false).2.files ((FilePath.ofText "out/new").child f)) ∧
    (r true).1 = .ok 1 ∧ w.files.SameFiles (r true).2.files := by
  intro w words r
  have htree : w.files.IsTree := isTree_sampleWorld _
  have hintent : (Invocation.read w.files words).intent =
      .command (.newTheme "out/new" (some "A/B") (some false)) := by decide
  have hr (full : Bool) : ((Invocation.read w.files words).run full).result w = r full := rfl
  have hok : (((Invocation.read w.files words).run false).result w).1 = .ok 0 := by
    decide +kernel
  have hfull : (((Invocation.read w.files words).run true).result w).1 = .ok 1 := by
    decide +kernel
  have heffect (full : Bool) := (invocation_effect htree words full).1 _ _ _ hintent
  simp only [hr] at hok hfull heffect
  -- the runs are not to be compared by what they come to
  clear_value r
  have hfailed : (r true).1 ≠ .ok 0 := by
    rw [hfull]
    decide
  exact ⟨htree, hintent, hok, (heffect false).1.mp hok, hfull, ((heffect true).2 hfailed).2⟩

end ThemeForge

import ThemeForge.Proofs.Command.Effect
import ThemeForge.Proofs.Console.Line

/-!
# Previews

A preview and the creation of a theme go different ways, but both follow the same sketch: the name
and the text of the file, as far as these can be told before anything is written. Where nobody
watches, a preview leaves out the control sequences of the text.

* `Command.sketch?`: the sketch; `Command.plan?_eq_sketch?`: what is planned is the sketch in bytes;
* `Run.IsSilent`: runs that leave the console as it is;
* `Command.result_preview`: a preview shows the sketch;
* **`preview_newTheme`**: a preview fails as the creation does, and shows what is created;
* **`preview_sequences`**: a preview that shows less than what is created.
-/

namespace ThemeForge

open FileSystem

section Engine

variable [Template.Engine]

/-! ## Silent runs -/

namespace Run

variable {α : Type}

/-- Whatever the outcome, the run leaves the console as it is. -/
def IsSilent (act : Run α) : Prop := ∀ w, (result act w).2.console = w.console

/-- Files are written silently. -/
theorem coversWriting_silent : World.CoversWriting fun w w' => w'.console = w.console where
  refl _ := rfl
  trans h h' := h'.trans h
  note _ _ _ := rfl
  find _ _ := rfl
  expand _ _ _ := rfl
  write _ _ := rfl
  register _ _ := rfl

theorem isQuiet_content (n : Text) (values : TemplateValues) :
    IsQuiet (do render (← template n) values) :=
  isCovered_content World.Quiet.covers.toCoversLooking n values

theorem isSilent_generate (d : ThemeDefaults) (r : ThemeRequest) : IsSilent (generate d r) :=
  isCovered_generate coversWriting_silent.toCoversLooking d r

theorem isSilent_content (n : Text) (values : TemplateValues) :
    IsSilent (do render (← template n) values) :=
  isCovered_content coversWriting_silent.toCoversLooking n values

theorem isSilent_perform_given (a : ThemeAction) (r : ThemeRequest) (directory : Text)
    (diskFull : Bool) : IsSilent (a.perform (.given r) directory diskFull) :=
  ThemeAction.isCovered_perform coversWriting_silent a (fun _ => rfl) directory diskFull

end Run

namespace Command

open Run

/-! ## Sketches -/

/-- The text for a template of a store and for values. -/
def content? (store : TemplateStore) (fs : FileSystem) (n : Text) (values : TemplateValues) :
    Except Failure Text := do
  let t ← (store.get? fs n).2.mapError (storeFailure n)
  rendered? (store.library fs) t values

/-- The name and the text of the file for a request. -/
def sketch? (s : Settings) (fs : FileSystem) (r : ThemeRequest) : Except Failure (Text × Text) := do
  let g ← (s.themes.generate? r).mapError generateFailure
  let text ← content? (.new s.templates.directory) fs s.templates.themeTemplate
    g.properties.toValues
  return (g.fileName, text)

section Planned

variable {s : Settings} {fs : FileSystem} {r : ThemeRequest}

theorem isPortable_of_sketch? (hs : s.themes.IsValid) {n text : Text}
    (h : sketch? s fs r = .ok (n, text)) : FileName.IsPortable n := by
  obtain ⟨g, hg, h⟩ := Except.bind_eq_ok_iff.mp h
  obtain ⟨text', -, h⟩ := Except.bind_eq_ok_iff.mp h
  cases h
  exact ThemeDefaults.isPortable_of_generate? hs (Except.mapError_eq_ok_iff.mp hg)

/-- What is planned is the sketch in bytes. -/
theorem plan?_eq_sketch? (hs : s.themes.IsValid) (fs : FileSystem) (r : ThemeRequest) :
    ∃ template : Option Text,
    (ThemeAction.ofSettings s false).plan? r (.new s.templates.directory) fs = do
      let (n, text) ← sketch? s fs r
      let bytes ← text.encode?.mapError fun f => .rendering (.encoding template f)
      return (n, bytes) := by
  unfold sketch? content?
  rcases hg : s.themes.generate? r with f | g
  · exact ⟨none, ThemeAction.plan?_of_error hg _ _⟩
  rcases ht : ((TemplateStore.new s.templates.directory).get? fs s.templates.themeTemplate).2
    with f | t
  · exact ⟨none, ThemeAction.plan?_of_get?_error (a := .ofSettings s false) hg ht⟩
  refine ⟨t.name, ?_⟩
  rw [ThemeAction.plan?_of_get?_ok (a := .ofSettings s false) hg ht]
  rw [draft?_of_isBareName (ThemeDefaults.isPortable_of_generate? hs hg).isBareName]
  simp only [Except.mapError_ok, Except.ok_bind]
  cases rendered? ((TemplateStore.new s.templates.directory).library fs) t
    g.properties.toValues with
  | error f => rfl
  | ok text => rfl

theorem plan?_of_sketch?_error (hs : s.themes.IsValid) {f : Failure}
    (h : sketch? s fs r = .error f) :
    (ThemeAction.ofSettings s false).plan? r (.new s.templates.directory) fs = .error f := by
  obtain ⟨template, hplan⟩ := plan?_eq_sketch? hs fs r
  rw [hplan, h]
  rfl

theorem plan?_of_encode?_ok (hs : s.themes.IsValid) {n text : Text} {bytes : Bytes}
    (h : sketch? s fs r = .ok (n, text)) (hbytes : text.encode? = .ok bytes) :
    (ThemeAction.ofSettings s false).plan? r (.new s.templates.directory) fs =
      .ok (n, bytes) := by
  obtain ⟨template, hplan⟩ := plan?_eq_sketch? hs fs r
  rw [hplan, h]
  simp only [Except.ok_bind, hbytes]
  rfl

theorem plan?_of_encode?_error (hs : s.themes.IsValid) {n text : Text} {f : Utf8.EncodeFault}
    (h : sketch? s fs r = .ok (n, text)) (hbytes : text.encode? = .error f) :
    ∃ template, (ThemeAction.ofSettings s false).plan? r (.new s.templates.directory) fs =
      .error (.rendering (.encoding template f)) := by
  obtain ⟨template, hplan⟩ := plan?_eq_sketch? hs fs r
  refine ⟨template, ?_⟩
  rw [hplan, h]
  simp only [Except.ok_bind, hbytes]
  rfl

end Planned

/-! ## What is shown -/

theorem result_content_fst (n : Text) (values : TemplateValues) (w : World) :
    (result (do render (← template n) values) w).1 = content? w.store w.files n values := by
  obtain ⟨w', hw', hquiet, -⟩ := exists_result_template n w
  unfold content?
  rcases hfound : (w.store.get? w.files n).2 with f | t
  · rw [hfound] at hw'
    rw [result_bind_error hw']
    rfl
  · rw [hfound] at hw'
    rw [result_bind_ok hw', result_render, hquiet.store.library]
    rfl

variable [Configuration.Format] [Terminal]

/-- The line for the user about the name of a file. -/
def fileNameLine (n : Text) : Text :=
  Terminal.layout .errors (Text.concat ["📄 File name: ", n])

/-- Once the settings are taken, a preview shows the sketch. -/
theorem result_preview {w w₁ : World} {s : Settings} (hsettings : result settings w = (.ok s, w₁))
    (name : Text) (dark : Option Bool) (diskFull : Bool) :
    ∃ w₂, w₂.files = w₁.files ∧ w₂.console = w₁.console ∧
      result ((preview name dark).run diskFull) w =
        match sketch? s w₁.files ⟨name, dark.getD s.themes.dark⟩ with
        | .error f => ended f w₂
        | .ok (n, text) =>
          (.ok 0, { w₂ with
            console := (w₂.console.report (fileNameLine n)).print (Terminal.echo text) }) := by
  obtain ⟨w₂, hgenerate, hquiet⟩ := (isQuiet_generate s.themes
    ⟨name, dark.getD s.themes.dark⟩).exists_result (result_generate_fst _ _ w₁)
  have hsilent := isSilent_generate s.themes ⟨name, dark.getD s.themes.dark⟩ w₁
  rw [hgenerate] at hsilent
  unfold sketch?
  rcases hg : s.themes.generate? ⟨name, dark.getD s.themes.dark⟩ with f | g
  · rw [hg] at hgenerate
    refine ⟨w₂, hquiet.files, hsilent, result_handle_error ?_⟩
    unfold runPreview
    rw [result_bind_ok hsettings]
    exact result_bind_error hgenerate _
  rw [hg] at hgenerate
  have hcontent := result_content_fst s.templates.themeTemplate g.properties.toValues
    { w₂ with store := .new s.templates.directory }
  have hfiles := isQuiet_content s.templates.themeTemplate g.properties.toValues
    { w₂ with store := .new s.templates.directory }
  have hconsole := isSilent_content s.templates.themeTemplate g.properties.toValues
    { w₂ with store := .new s.templates.directory }
  have hstore := result_withStore (.new s.templates.directory)
    (do render (← template s.templates.themeTemplate) g.properties.toValues) w₂
  rcases hr : result (do render (← template s.templates.themeTemplate) g.properties.toValues)
    { w₂ with store := .new s.templates.directory } with ⟨o, w₃⟩
  rw [hr] at hcontent hfiles hconsole hstore
  simp only at hcontent
  rw [hquiet.files] at hcontent
  rw [Except.mapError_ok, Except.ok_bind, ← hcontent]
  refine ⟨{ w₃ with store := w₂.store }, hfiles.files.trans hquiet.files,
    hconsole.trans hsilent, ?_⟩
  rcases o with f | text
  · refine result_handle_error ?_
    unfold runPreview
    rw [result_bind_ok hsettings, result_bind_ok hgenerate]
    exact result_bind_error hstore _
  · refine result_handle_ok ?_
    unfold runPreview
    rw [result_bind_ok hsettings, result_bind_ok hgenerate, result_bind_ok hstore]
    rfl

/-! ## What is created -/

section NewTheme

variable {w w₁ : World} {s : Settings} (hsettings : result settings w = (.ok s, w₁))
  (directory name : Text) (dark : Option Bool) (diskFull : Bool)
include hsettings

theorem result_newTheme_of_plan_error {f : Failure}
    (hplan : (ThemeAction.ofSettings s false).plan? ⟨name, dark.getD s.themes.dark⟩
      (.new s.templates.directory) w₁.files = .error f) :
    ∃ w₂, w₂.files = w₁.files ∧ w₂.console = w₁.console ∧
      result ((newTheme directory (some name) dark).run diskFull) w = ended f w₂ := by
  let start : World := { w₁ with store := .new s.templates.directory }
  have hrequest : (((ThemeAction.ofSettings s false).request
      (provider (some name) (dark.getD s.themes.dark))).result start).1 =
        .ok (some ⟨name, dark.getD s.themes.dark⟩) := rfl
  obtain ⟨w₂, hact, hquiet⟩ := ThemeAction.perform_of_plan_error directory diskFull hrequest hplan
  have hsilent := isSilent_perform_given (.ofSettings s false) ⟨name, dark.getD s.themes.dark⟩
    directory diskFull start
  rw [show provider (some name) (dark.getD s.themes.dark) = .given _ from rfl] at hact
  rw [hact] at hsilent
  exact ⟨{ w₂ with store := w₁.store }, hquiet.files, hsilent,
    result_newTheme hsettings directory (some name) dark diskFull hact⟩

theorem result_newTheme_of_plan_ok {n : Text} {bytes : Bytes}
    (hplan : (ThemeAction.ofSettings s false).plan? ⟨name, dark.getD s.themes.dark⟩
      (.new s.templates.directory) w₁.files = .ok (n, bytes)) :
    let r := result ((newTheme directory (some name) dark).run diskFull) w
    ∃ placed, Placed (.ofText directory) n bytes w₁.files diskFull placed r.2.files ∧
      (r.1 = .ok 0 ↔ placed = .ok ()) := by
  intro r
  let start : World := { w₁ with store := .new s.templates.directory }
  have hrequest : (((ThemeAction.ofSettings s false).request
      (provider (some name) (dark.getD s.themes.dark))).result start).1 =
        .ok (some ⟨name, dark.getD s.themes.dark⟩) := rfl
  obtain ⟨placed, o, -, w₂, -, -, hplaced, rfl, hact, -, -⟩ :=
    ThemeAction.perform_of_plan_ok directory diskFull hrequest hplan
  have hr : r = _ := result_newTheme hsettings directory (some name) dark diskFull hact
  refine ⟨placed, ?_⟩
  cases placed with
  | error f =>
    replace hr : r = ended f { w₂ with store := w₁.store } := hr
    rw [hr, files_ended]
    exact ⟨hplaced, iff_of_false (ended_fst_ne_zero f _) (nomatch ·)⟩
  | ok u =>
    rw [hr]
    exact ⟨hplaced, iff_of_true rfl rfl⟩

section Sketched

variable {n text : Text} (hs : s.themes.IsValid)
  (hsketch : sketch? s w₁.files ⟨name, dark.getD s.themes.dark⟩ = .ok (n, text))
include hs hsketch

/-- What is created holds the text of the sketch. -/
theorem exists_file_of_not_sameFiles (htree : w₁.files.IsTree) :
    let r := result ((newTheme directory (some name) dark).run diskFull) w
    ¬ w₁.files.SameFiles r.2.files →
      w₁.files.AddsFile r.2.files ((FilePath.ofText directory).child n) ∧
      ∃ bytes stamp, r.2.files.file? ((FilePath.ofText directory).child n) = some (bytes, stamp) ∧
        Utf8.decode? bytes = .ok text := by
  intro r hchanged
  cases hbytes : text.encode? with
  | error e =>
    obtain ⟨template, hplan⟩ := plan?_of_encode?_error hs hsketch hbytes
    obtain ⟨w₂, hfiles, -, hr⟩ :=
      result_newTheme_of_plan_error hsettings directory name dark diskFull hplan
    rw [show r = _ from hr, files_ended, hfiles] at hchanged
    exact absurd (.refl w₁.files) hchanged
  | ok bytes =>
    obtain ⟨placed, hplaced, -⟩ := result_newTheme_of_plan_ok hsettings directory name dark
      diskFull (plan?_of_encode?_ok hs hsketch hbytes)
    cases placed with
    | error f => exact absurd (hplaced.sameFiles htree) hchanged
    | ok u =>
      obtain ⟨made, l, hfree, hfiles⟩ := hplaced.of_ok
      obtain ⟨hencodable, rfl⟩ := Text.encode?_eq_ok_iff.mp hbytes
      refine ⟨hplaced.addsFile, _, made.clock, ?_, Text.decode?_bytes hencodable⟩
      rw [show r.2.files = _ from hfiles]
      exact hfree.file?_putFile _

theorem result_newTheme_of_encode?_error {e : Utf8.EncodeFault} (hbytes : text.encode? = .error e) :
    let r := result ((newTheme directory (some name) dark).run diskFull) w
    r.1 = .ok 1 ∧ r.2.files = w₁.files := by
  intro r
  obtain ⟨template, hplan⟩ := plan?_of_encode?_error hs hsketch hbytes
  obtain ⟨w₂, hfiles, -, hr⟩ :=
    result_newTheme_of_plan_error hsettings directory name dark diskFull hplan
  rw [show r = _ from hr, files_ended, hfiles]
  exact ⟨rfl, rfl⟩

/-- In a directory without such an entry, the file is created. -/
theorem result_newTheme_of_free {bytes : Bytes} (hbytes : text.encode? = .ok bytes)
    (hdir : w₁.files.hasDirectory (.ofText directory) = true)
    (hnone : w₁.files.find? ((FilePath.ofText directory).child n) = .ok none) :
    let r := result ((newTheme directory (some name) dark).run false) w
    r.1 = .ok 0 ∧ ∃ l, w₁.files.locate ((FilePath.ofText directory).child n) = .ok l ∧
      r.2.files = w₁.files.putFile l bytes := by
  intro r
  obtain ⟨placed, hplaced, hok⟩ := result_newTheme_of_plan_ok hsettings directory name dark false
    (plan?_of_encode?_ok hs hsketch hbytes)
  have hentry := (isPortable_of_sketch? hs hsketch).isEntryName
  obtain ⟨l, hloc, hlook⟩ := hasDirectory_iff.mp hdir
  have hopens : Opens (.ofText directory) w₁.files w₁.files l :=
    ⟨makeDirectories_eq_self hdir, hloc, hlook⟩
  obtain ⟨l', hloc', hnone'⟩ := Except.bind_eq_ok_iff.mp hnone
  have husable := (locate_eq_ok_iff.mp hloc').1
  cases (locate_child hloc hlook hentry husable).symm.trans hloc'
  rcases hplaced.of_opens hopens hentry with ⟨-, -, rfl, hfiles⟩ | ⟨-, htaken, -, -⟩ | ⟨hlong, -, -⟩
  · exact ⟨hok.mpr rfl, _, hloc', hfiles⟩
  · exact absurd (Except.ok.inj hnone') htaken
  · exact absurd husable hlong

end Sketched

end NewTheme

/-- The sketch for a name, with the settings for given files and variables. -/
def preview? (fs : FileSystem) (environment : Variables) (name : Text) (dark : Option Bool) :
    Except Failure (Text × Text) := do
  let s ← Configuration.load? fs environment
  sketch? s fs ⟨name, dark.getD s.themes.dark⟩

/-- What cannot be sketched ends both commands. -/
theorem result_of_preview?_error {w : World} (hkept : w.configuration = none)
    (directory name : Text) (dark : Option Bool) (diskFull : Bool) {f : Failure}
    (h : preview? w.files w.environment name dark = .error f) :
    ∃ w₂ w₃, w₂.files = w.files ∧ w₂.console = w.console ∧ w₃.files = w.files ∧
      w₃.console = w.console ∧ result ((preview name dark).run diskFull) w = ended f w₂ ∧
      result ((newTheme directory (some name) dark).run diskFull) w = ended f w₃ := by
  have hsettings := result_settings hkept
  rcases Except.bind_eq_error_iff.mp h with hload | ⟨s, hload, hsketch⟩
  · rw [hload] at hsettings
    have hended (c : Command) := result_run_of_settings_error hsettings c diskFull
    refine ⟨_, _, ?_, ?_, ?_, ?_, hended _, hended _⟩ <;> rfl
  · rw [hload] at hsettings
    obtain ⟨w₂, hfiles, hconsole, hshown⟩ := result_preview hsettings name dark diskFull
    rw [hsketch] at hshown
    have hplan := plan?_of_sketch?_error (Configuration.isValid_of_load? hload) hsketch
    obtain ⟨w₃, hfiles', hconsole', hcreated⟩ :=
      result_newTheme_of_plan_error hsettings directory name dark diskFull hplan
    exact ⟨w₂, w₃, hfiles, hconsole, hfiles', hconsole', hshown, hcreated⟩

end Command

open Command in
/-- **A preview agrees with the creation of a theme**, provided that no configuration is kept. What
cannot be loaded, generated, found or rendered ends both in the same way. What is created has been
shown: the name in a line of its own, and the text that the bytes stand for, as it is if someone
watches or no control sequence begins in it, and otherwise without its control sequences. What is
shown is created in any directory in which nothing bears the name, unless it has no bytes. -/
theorem preview_newTheme [Configuration.Format] [Terminal] {w : World} (htree : w.files.IsTree)
    (hkept : w.configuration = none) (directory name : Text) (dark : Option Bool)
    (diskFull : Bool) :
    let shown := ((preview name dark).run diskFull).result w
    let created := ((newTheme directory (some name) dark).run diskFull).result w
    (∀ f, preview? w.files w.environment name dark = .error f →
      shown.1 = (ended f w).1 ∧ created.1 = (ended f w).1 ∧
      shown.2.console = (ended f w).2.console ∧ created.2.console = (ended f w).2.console ∧
      shown.2.files = w.files ∧ created.2.files = w.files) ∧
    ((∃ p, preview? w.files w.environment name dark = .ok p) → shown.1 = .ok 0) ∧
    (¬ w.files.SameFiles created.2.files → ∃ n text bytes stamp,
      shown.1 = .ok 0 ∧ shown.2.console =
        (w.console.report (fileNameLine n)).print (Terminal.echo text) ∧
      (Terminal.isInteractive = true ∨ Code.escape ∉ text → Terminal.echo text = text) ∧
      w.files.AddsFile created.2.files ((FilePath.ofText directory).child n) ∧
      created.2.files.file? ((FilePath.ofText directory).child n) = some (bytes, stamp) ∧
      Utf8.decode? bytes = .ok text) ∧
    (shown.1 = .ok 0 → ∃ n text, preview? w.files w.environment name dark = .ok (n, text) ∧
      shown.2.console = (w.console.report (fileNameLine n)).print (Terminal.echo text) ∧
      (∀ bytes, text.encode? = .ok bytes → diskFull = false →
        w.files.hasDirectory (.ofText directory) = true →
        w.files.find? ((FilePath.ofText directory).child n) = .ok none →
        created.1 = .ok 0 ∧ ∃ l, w.files.locate ((FilePath.ofText directory).child n) = .ok l ∧
          created.2.files = w.files.putFile l bytes) ∧
      ∀ e, text.encode? = .error e → created.1 = .ok 1 ∧ created.2.files = w.files) := by
  intro shown created
  have hsettings := Run.result_settings hkept
  rcases hpreview : preview? w.files w.environment name dark with f | ⟨n, text⟩
  · obtain ⟨w₂, w₃, hfiles₂, hconsole₂, hfiles₃, hconsole₃, hshown, hcreated⟩ :=
      result_of_preview?_error hkept directory name dark diskFull hpreview
    have h₂ := ended_congr f hfiles₂ hconsole₂
    have h₃ := ended_congr f hfiles₃ hconsole₃
    rw [← show shown = _ from hshown] at h₂
    rw [← show created = _ from hcreated] at h₃
    rw [files_ended] at h₂ h₃
    refine ⟨fun f' hf' => ?_, fun hp => (nomatch hp.choose_spec), fun hchanged => ?_,
      fun hok => ?_⟩
    · cases hf'
      exact ⟨h₂.1, h₃.1, h₂.2.2, h₃.2.2, h₂.2.1, h₃.2.1⟩
    · rw [h₃.2.1] at hchanged
      exact absurd (.refl w.files) hchanged
    · exact absurd (h₂.1.symm.trans hok) (ended_fst_ne_zero f w)
  · obtain ⟨s, hload, hsketch⟩ := Except.bind_eq_ok_iff.mp hpreview
    have hs := Configuration.isValid_of_load? hload
    rw [hload] at hsettings
    obtain ⟨w₂, -, hconsole, hshown⟩ := result_preview hsettings name dark diskFull
    rw [hsketch] at hshown
    replace hconsole : shown.2.console =
        (w.console.report (fileNameLine n)).print (Terminal.echo text) := by
      rw [show shown = _ from hshown]
      exact congrArg (fun c : Console => (c.report (fileNameLine n)).print (Terminal.echo text))
        hconsole
    have hok : shown.1 = .ok 0 := by rw [show shown = _ from hshown]
    refine ⟨fun f hf => (nomatch hf), fun _ => hok, fun hchanged => ?_,
      fun _ => ⟨n, text, rfl, hconsole, ?_, ?_⟩⟩
    · obtain ⟨hadds, bytes, stamp, hfile, hdecode⟩ := exists_file_of_not_sameFiles hsettings
        directory name dark diskFull hs hsketch htree hchanged
      exact ⟨n, text, bytes, stamp, hok, hconsole, Terminal.echo_eq_self, hadds, hfile, hdecode⟩
    · rintro bytes hbytes rfl hdir hnone
      exact result_newTheme_of_free hsettings directory name dark hs hsketch hbytes hdir hnone
    · intro e he
      exact result_newTheme_of_encode?_error hsettings directory name dark diskFull hs hsketch he

end Engine

open Command in
/-- With a configuration that sets darkness and the replacement for illegal characters: a theme in a
new directory, and a name that is refused. -/
theorem preview_newTheme_dash :
    let w := configuredWorld "themes: \x7bdark: false, replacement: '-'\x7d" []
    let shown (name : Text) := ((preview name none).run).result w
    let created (name : Text) := ((newTheme "out" (some name) none).run).result w
    w.files.IsTree ∧ w.configuration = none ∧ (created "A:B").1 = .ok 0 ∧
    (∃ n text bytes stamp, (shown "A:B").1 = .ok 0 ∧ (shown "A:B").2.console =
        (w.console.report (fileNameLine n)).print (Terminal.echo text) ∧
      (created "A:B").2.files.file? ((FilePath.ofText "out").child n) = some (bytes, stamp) ∧
      Utf8.decode? bytes = .ok text) ∧
    ∃ f, preview? w.files w.environment " " none = .error f ∧
      (shown " ").1 = (ended f w).1 ∧ (created " ").1 = (ended f w).1 ∧
      (shown " ").2.console = (created " ").2.console := by
  intro w shown created
  have htree : w.files.IsTree := isTree_empty.putFile rfl rfl _
  have hok : (((newTheme "out" (some "A:B") none).run).result w).1 = .ok 0 := by decide +kernel
  have hrefused : preview? w.files w.environment " " none =
      .error (.rejected (.rejected .empty Theme.emptyMessage)) := by
    decide +kernel
  have hshown (name : Text) : ((preview name none).run).result w = shown name := rfl
  have hcreated (name : Text) : ((newTheme "out" (some name) none).run).result w = created name :=
    rfl
  have hagree (name : Text) := preview_newTheme htree rfl "out" name none false
  have hcases := newTheme_cases "out" (some "A:B") none false htree
  simp only [hshown, hcreated] at hok hagree hcases
  -- the runs are not to be compared by what they come to
  clear_value shown created
  have hchanged : ¬ w.files.SameFiles (created "A:B").2.files := by
    rcases hcases with ⟨-, n, -, -, hadds⟩ | ⟨h, -⟩
    · exact fun hsame => hsame.not_addsFile hadds
    · rcases h with h | ⟨f, h, -⟩
      · exact nomatch hok.symm.trans h
      · exact nomatch hok.symm.trans h
  obtain ⟨n, text, bytes, stamp, hzero, hconsole, -, -, hfile, hdecode⟩ :=
    (hagree "A:B").2.2.1 hchanged
  obtain ⟨hfirst, hsecond, hconsole', hconsole'', -⟩ := (hagree " ").1 _ hrefused
  exact ⟨htree, rfl, hok, ⟨n, text, bytes, stamp, hzero, hconsole, hfile, hdecode⟩, _, hrefused,
    hfirst, hsecond, hconsole'.trans hconsole''.symm⟩

/-! ## Output that nobody watches -/

/-- The line about a portable name, where lines are not wrapped. -/
theorem Command.fileNameLine_of_isPortable {n : Text} (h : FileName.IsPortable n) :
    fileNameLine n = Text.concat ["📄 File name: ", n, "\n"] := by
  have hlabel : ("📄 File name: " : Text).IsShowable := by
    unfold Text.IsShowable
    decide
  have hshown := (Text.isShowable_append.mpr ⟨hlabel, h.isLegal.isShowable⟩).shown_literal
  have hconcat : Text.concat ["📄 File name: ", n] = "📄 File name: " ++ n := by
    simp [Text.concat]
  change Text.concat [(Text.concat ["📄 File name: ", n]).literal.shown, "\n"] = _
  rw [hconcat, hshown]
  simp [Text.concat]

/-- A world with a template of the user that gives the name of the theme in bold. -/
def boldWorld : World where
  files := (({} : FileSystem).put ⟨.working 0, [Text.bytes "tpl"]⟩ .directory).putFile
    ⟨.working 0, [Text.bytes "tpl", Text.bytes "ThemeJson.json"]⟩
    (Text.bytes "\x1b[1m\x7b\x7b NAME \x7d\x7d")
  environment := [("THEMEKIT_TEMPLATES_DIR", "tpl")]

open Command in
/-- **A preview that nobody watches leaves out control sequences**, which the file has. -/
theorem preview_sequences :
    let shown := ((preview "A" none).run).result boldWorld
    let created := ((newTheme "out" (some "A") none).run).result boldWorld
    created.1 = .ok 0 ∧
    (created.2.files.file? (.ofText "out/A.theme.json")).map (fun f => Utf8.decode? f.1) =
      some (.ok "\x1b[1mA\n") ∧
    shown.1 = .ok 0 ∧ shown.2.console.output = "A\n" := by
  decide +kernel

end ThemeForge

import ThemeForge.Proofs.Template.Bundled
import ThemeForge.Proofs.Theme.Plan

/-!
# Which failures of a creation are handled

A place that cannot be used is always answered, and so is a template that is missing, refused or
fails by its own fault, as the engine reports it. What nothing handles are files that are no text,
and all other failures of the engine, when it reads the source and when it expands the template.

* `FileSystem.exists_system_of_makeDirectories`, `FileSystem.exists_system_of_createFile`: with a
  usable path, only the system refuses;
* `Run.Placed.isHandled`: the failures to write a file;
* `ThemeAction.plan?_of_expand?_error`, `ThemeAction.plan?_of_expand?_ok`: what is planned, by the
  expansion of the template;
* `Template.OwnsFaults`: expansions that fail only by a fault of the template;
* **`create_answer`**: exactly when a creation ends in a failure that nothing handles, and in which;
* **`create_division`**: a template for which it does.
-/

namespace ThemeForge

open FileSystem Template

/-! ## Refusals of the system -/

namespace FileSystem

variable {fs fs' : FileSystem} {p : FilePath}

theorem exists_system_of_locate (hp : ∃ b, p.bytes? = .ok b) {f : PathFault}
    (h : fs.locate p = .error f) : ∃ e, f = .system e := by
  obtain ⟨b, hb⟩ := hp
  unfold locate at h
  rw [hb, Except.ok_bind] at h
  split at h
  · cases h
    exact ⟨_, rfl⟩
  · obtain ⟨e, -, rfl⟩ := Except.mapError_eq_error_iff.mp h
    exact ⟨e, rfl⟩

/-- Putting something new at a path fails as finding the path does, or because the system refuses
it. -/
theorem exists_system_of_new (hp : ∃ b, p.bytes? = .ok b) (change : Location → FileSystem)
    {f : PathFault} (h : (do
      let l ← fs.locate p
      match fs.lookup l with
      | some _ => throw (.system .exists)
      | none => if fs.isDirectory l.parent then return change l else throw (.system .noEntry)) =
        Except.error f) : ∃ e, f = .system e := by
  rcases Except.bind_eq_error_iff.mp h with h | ⟨l, -, h⟩
  · exact exists_system_of_locate hp h
  · split at h
    · cases h
      exact ⟨_, rfl⟩
    · split at h
      · exact nomatch h
      · cases h
        exact ⟨_, rfl⟩

theorem exists_system_of_makeDirectory (hp : ∃ b, p.bytes? = .ok b) {f : PathFault}
    (h : fs.makeDirectory p = .error f) : ∃ e, f = .system e :=
  exists_system_of_new hp (fun l => fs.put l .directory) h

theorem exists_system_of_createFile (hp : ∃ b, p.bytes? = .ok b) {content : Bytes} {f : PathFault}
    (h : fs.createFile p content = .error f) : ∃ e, f = .system e :=
  exists_system_of_new hp (fun l => fs.putFile l content) h

theorem exists_system_of_settle {e : SystemError} {f : DirectoryFault}
    (h : fs.settle p (.system e) = .error f) : ∃ e, f.fault = .system e := by
  unfold settle at h
  simp only at h
  split at h
  · exact nomatch h
  · cases h
    exact ⟨e, rfl⟩

theorem exists_bytes?_upTo (hp : p.IsUsable) (n : Nat) : ∃ b, (p.upTo n).bytes? = .ok b := by
  have hsplit : p = { p.upTo n with names := (p.upTo n).names ++ p.names.drop n } := by
    simp [FilePath.upTo]
  rw [hsplit] at hp
  obtain ⟨b, hb, -⟩ := hp.of_append
  exact ⟨b, hb⟩

/-- On the way to a usable path, only the system refuses to make a directory. -/
theorem exists_system_of_makeDirectoriesTo (hp : p.IsUsable) (n : Nat) (fs : FileSystem)
    {f : DirectoryFault} (h : (makeDirectoriesTo p n fs).2 = .error f) :
    ∃ e, f.fault = .system e := by
  have hsettled {fs : FileSystem} {k : Nat} {g : PathFault}
      (hg : fs.makeDirectory (p.upTo k) = .error g) {fs' : FileSystem}
      (h : fs'.settle (p.upTo k) g = .error f) : ∃ e, f.fault = .system e := by
    obtain ⟨e, rfl⟩ := exists_system_of_makeDirectory (exists_bytes?_upTo hp k) hg
    exact exists_system_of_settle h
  induction n generalizing fs with
  | zero =>
    rw [makeDirectoriesTo] at h
    split at h
    · cases h
    · cases h
      exact ⟨_, rfl⟩
    · rename_i hg
      exact hsettled hg h
  | succ n ih =>
    rw [makeDirectoriesTo] at h
    split at h
    · cases h
    · have hup := ih fs
      generalize makeDirectoriesTo p n fs = result at hup h
      obtain ⟨fs', g | _⟩ := result
      · exact hup h
      · simp only at h
        split at h
        · cases h
        · rename_i hg
          exact hsettled hg h
    · rename_i hg
      exact hsettled hg h

theorem exists_system_of_makeDirectories (hp : p.IsUsable) {made : FileSystem}
    {f : DirectoryFault} (h : fs.makeDirectories p = (made, .error f)) :
    ∃ e, f.fault = .system e := by
  refine exists_system_of_makeDirectoriesTo hp p.names.length fs ?_
  rw [makeDirectories] at h
  rw [h]

end FileSystem

/-- With a usable directory, every failure to write a file in it is handled. -/
theorem Run.Placed.isHandled {d : FilePath} {n : Text} {b bytes : Bytes} {diskFull : Bool}
    {fs fs' : FileSystem} {f : Failure} (hd : d.IsUsable) (hn : FilePath.IsEntryName n b)
    (h : Placed d n bytes fs diskFull (.error f) fs') : f.IsHandled := by
  generalize ho : Except.error f = o at h
  cases h with
  | unmade _ hmade =>
    cases ho
    obtain ⟨e, he⟩ := exists_system_of_makeDirectories hd hmade
    rw [directoryFailure, he]
    rfl
  | refused _ _ hcreated =>
    cases ho
    obtain ⟨bytes', hbytes', -⟩ := hd
    obtain ⟨e, rfl⟩ := exists_system_of_createFile
      (FilePath.exists_bytes?_child ⟨bytes', hbytes'⟩ hn.nameable) hcreated
    cases e <;> rfl
  | undone _ =>
    cases ho
    rfl
  | written _ => cases ho

/-! ## Templates -/

/-- The expansion gives a text or fails by a fault of the template, not by another. -/
def Template.OwnsFaults (x : Except RenderFault Text) : Prop :=
  ∀ f, x = .error f → ∃ p, f = .template p

section Engine

variable [Engine]

namespace TemplateStore

/-- In a new store, the text of the user's file is read. -/
theorem get?_of_userFile? {directory : Option Text} {fs : FileSystem} {n source : Text}
    {stamp : Nat} (huser : (new directory).userFile? fs n = some (source.bytes, stamp))
    (hsource : source.IsEncodable) : ((new directory).get? fs n).2 =
      (Template.compile? (some n) source.universalNewlines).mapError .ofLoad := by
  have hfind : (new directory).find? fs n = (new directory).load? fs n := rfl
  rw [get?, hfind, load?, huser]
  simp only [Text.decode?_bytes hsource, Except.mapError_ok, Except.ok_bind]
  cases Template.compile? (some n) source.universalNewlines with
  | error f => rfl
  | ok t => rfl

end TemplateStore

namespace ThemeAction

variable {a : ThemeAction} {r : ThemeRequest}

section Expanded

variable {s : TemplateStore} {fs : FileSystem} {g : GeneratedFile} {t : Template}
  (hg : a.defaults.generate? r = .ok g) (ht : (s.get? fs a.template).2 = .ok t)
include hg

/-- The properties of a theme do not bear the template's own name. -/
theorem rendered?_of_generate? (library : Template.Library) (t : Template) :
    Run.rendered? library t g.properties.toValues =
      ((t.expand? library g.properties.toValues).1.mapError (Run.expansionFailure t)).map
        Run.withLineEnd := by
  have hown : g.properties.toValues.any (fun e => e.1 == Run.ownName) = false := by
    rw [ThemeDefaults.properties_of_generate? hg]
    rfl
  rw [Run.rendered?, hown, if_neg Bool.false_ne_true]

include ht

theorem plan?_of_expand?_error (hbare : FilePath.isBareName g.fileName = true) {f : RenderFault}
    (hf : (t.expand? (s.library fs) g.properties.toValues).1 = .error f) :
    a.plan? r s fs = .error (Run.expansionFailure t f) := by
  rw [plan?_of_get?_ok hg ht, Run.draft?_of_isBareName hbare, rendered?_of_generate? hg, hf]
  rfl

theorem plan?_of_expand?_ok (hbare : FilePath.isBareName g.fileName = true) {text : Text}
    (htext : (t.expand? (s.library fs) g.properties.toValues).1 = .ok text) :
    a.plan? r s fs = do
      let bytes ← (Run.withLineEnd text).encode?.mapError fun f => .rendering (.encoding t.name f)
      return (g.fileName, bytes) := by
  rw [plan?_of_get?_ok hg ht, Run.draft?_of_isBareName hbare, rendered?_of_generate? hg, htext]
  rfl

end Expanded

section Outcome

variable {w : World} (directory : Text) (diskFull : Bool)

theorem result_create_fst_of_plan_error {f : Failure}
    (h : a.plan? r w.store w.files = .error f) :
    ((a.create r directory diskFull).result w).1 = .error f := by
  obtain ⟨w', -, herror, -⟩ := result_create a r directory diskFull w
  rw [herror f h]

theorem result_create_fst_of_plan_ok {n : Text} {bytes : Bytes}
    (h : a.plan? r w.store w.files = .ok (n, bytes)) : ∃ placed fs,
      Run.Placed (.ofText directory) n bytes w.files diskFull placed fs ∧
      ((a.create r directory diskFull).result w).1 =
        placed.map fun _ => (FilePath.ofText directory).child n := by
  obtain ⟨w', hquiet, -, hok⟩ := result_create a r directory diskFull w
  obtain ⟨-, t, hcreate⟩ := hok n bytes h
  obtain ⟨placed, fs, hplace, hplaced⟩ :=
    Run.result_place (.ofText directory) n bytes diskFull w'
  rw [hquiet.files] at hplaced
  refine ⟨placed, fs, hplaced, ?_⟩
  rw [hcreate]
  cases placed with
  | error f => rw [Run.result_bind_error hplace]; rfl
  | ok u => rw [Run.result_bind_ok hplace]; rfl

/-- The outcome is a path or a failure that is handled. -/
def IsAnswered (o : Except Failure FilePath) : Prop :=
  ∀ f, o = .error f → f.IsHandled

/-- A text that has been expanded ends in a file, or in a failure that is handled. -/
theorem isAnswered_create_of_expand?_ok (hd : a.defaults.IsValid)
    (hdirectory : (FilePath.ofText directory).IsUsable) {g : GeneratedFile} {t : Template}
    {text : Text} (hg : a.defaults.generate? r = .ok g)
    (ht : (w.store.get? w.files a.template).2 = .ok t)
    (htext : (t.expand? (w.store.library w.files) g.properties.toValues).1 = .ok text) :
    IsAnswered ((a.create r directory diskFull).result w).1 := by
  have hportable := ThemeDefaults.isPortable_of_generate? hd hg
  have hplan := plan?_of_expand?_ok hg ht hportable.isBareName htext
  cases hbytes : (Run.withLineEnd text).encode? with
  | error e =>
    rw [hbytes] at hplan
    rw [result_create_fst_of_plan_error directory diskFull hplan]
    rintro f ⟨⟩
    rfl
  | ok bytes =>
    rw [hbytes] at hplan
    obtain ⟨placed, fs, hplaced, ho⟩ := result_create_fst_of_plan_ok directory diskFull hplan
    rw [ho]
    cases placed with
    | error f =>
      rintro f' ⟨⟩
      exact hplaced.isHandled hdirectory hportable.isEntryName
    | ok u => exact fun f hf => nomatch hf

end Outcome

end ThemeAction

open ThemeAction in
/-- **Exactly when a creation ends in a way that nothing handles**, for checked defaults, an
accepted name, a usable directory, and whatever the engine of templates does: the template's file is
no text, the engine fails on its source instead of refusing it, or the expansion fails by something
else than a fault of the template. All other faults are answered, those of finding, reading and
expanding the template with what they are. What the store finds is what the engine makes of the text
of the user's file. -/
theorem create_answer {a : ThemeAction} {r : ThemeRequest} {directory : Text} {diskFull : Bool}
    {w : World} (hd : a.defaults.IsValid) (hname : ¬ a.defaults.Refuses r.name)
    (hdirectory : (FilePath.ofText directory).IsUsable) :
    let o := ((a.create r directory diskFull).result w).1
    let found := (w.store.get? w.files a.template).2
    let expanded (t : Template) :=
      (t.expand? (w.store.library w.files) (Theme.properties r.name r.isDark).toValues).1
    (IsAnswered o ↔ (∀ e, found ≠ .error (.decoding e)) ∧ (∀ c, found ≠ .error (.crash c)) ∧
      ∀ t, found = .ok t → OwnsFaults (expanded t)) ∧
    (found = .error .notFound → o = .error (.templateNotFound a.template)) ∧
    (∀ f, found = .error (.source f) → o = .error (.rendering (.source a.template f))) ∧
    (∀ t p, found = .ok t → expanded t = .error (.template p) →
      o = .error (.rendering (.expansion t.name p))) ∧
    (∀ c, found = .error (.crash c) → o = .error (.unhandled (.crash c))) ∧
    (∀ t f, found = .ok t → expanded t = .error f → (∀ p, f ≠ .template p) →
      ∃ u, o = .error (.unhandled u)) ∧
    ∀ (d : Option Text) (source : Text) (stamp : Nat), w.store = .new d →
      w.store.userFile? w.files a.template = some (source.bytes, stamp) → source.IsEncodable →
      found = (Template.compile? (some a.template) source.universalNewlines).mapError .ofLoad := by
  intro o found expanded
  obtain ⟨fileName, hfile, hportable⟩ := ThemeDefaults.exists_fileName? hd r.name
  have hg := ThemeDefaults.generate?_of_not_refuses hname hfile
  have hbare := hportable.isBareName
  have hfound {f : StoreFault} (h : found = .error f) :
      o = .error (Run.storeFailure a.template f) :=
    result_create_fst_of_plan_error directory diskFull (plan?_of_get?_error hg h)
  have hexpanded {t : Template} {f : RenderFault} (ht : found = .ok t)
      (h : expanded t = .error f) : o = .error (Run.expansionFailure t f) :=
    result_create_fst_of_plan_error directory diskFull (plan?_of_expand?_error hg ht hbare h)
  have hanswer : IsAnswered o ↔ (∀ e, found ≠ .error (.decoding e)) ∧
      (∀ c, found ≠ .error (.crash c)) ∧ ∀ t, found = .ok t → OwnsFaults (expanded t) := by
    rcases hf : found with f | t
    · rw [hfound hf]
      cases f with
      | notFound | source f =>
        refine iff_of_true ?_ ⟨fun _ h => (nomatch h), fun _ h => (nomatch h),
          fun _ h => (nomatch h)⟩
        rintro f ⟨⟩
        rfl
      | decoding e => exact iff_of_false (fun h => nomatch h _ rfl) fun h => h.1 e rfl
      | crash c => exact iff_of_false (fun h => nomatch h _ rfl) fun h => h.2.1 c rfl
    · rcases he : expanded t with f | text
      · rw [hexpanded hf he]
        cases f with
        | template p =>
          refine iff_of_true ?_ ⟨fun _ h => (nomatch h), fun _ h => (nomatch h), ?_⟩
          · rintro f ⟨⟩
            rfl
          · rintro t' ⟨⟩ f hf
            exact ⟨p, Except.error.inj (hf.symm.trans he)⟩
        | operation f | decoding f | nesting | crash f =>
          refine iff_of_false (fun h => nomatch h _ rfl) fun h => ?_
          obtain ⟨p, hp⟩ := h.2.2 t rfl _ he
          exact nomatch hp
      · have hanswered :=
          isAnswered_create_of_expand?_ok directory diskFull hd hdirectory hg hf he
        refine iff_of_true hanswered ⟨fun _ h => (nomatch h), fun _ h => (nomatch h), ?_⟩
        rintro t' ⟨⟩ f hf
        exact nomatch hf.symm.trans he
  refine ⟨hanswer, hfound, fun f hf => hfound hf, fun t p ht hp => hexpanded ht hp,
    fun c hc => hfound hc, fun t f ht hf hother => ?_,
    fun d source stamp hstore huser hsource => ?_⟩
  · rw [hexpanded ht hf]
    cases f with
    | template p => exact absurd rfl (hother p)
    | operation f | decoding f | nesting | crash f => exact ⟨_, rfl⟩
  · change (w.store.get? w.files a.template).2 = _
    rw [hstore] at huser ⊢
    exact TemplateStore.get?_of_userFile? huser hsource

end Engine

/-- A world in which the user has a template for themes. -/
def userWorld (source : Text) : World where
  files := (({} : FileSystem).put ⟨.working 0, [Text.bytes "tpl"]⟩ .directory).putFile
    ⟨.working 0, [Text.bytes "tpl", defaultTemplate.bytes]⟩ source.bytes
  store := .new (some "tpl")

/-- A user's copy of the bundled template. -/
theorem create_answer_copy :
    let a : ThemeAction := {}
    let r : ThemeRequest := ⟨"A", true⟩
    let w := userWorld Bundled.themeSource
    a.defaults.IsValid ∧ ¬ a.defaults.Refuses r.name ∧ (FilePath.ofText "out").IsUsable ∧
    (w.store.get? w.files a.template).2 = .ok (Bundled.themeTemplate (some a.template)) ∧
    ThemeAction.IsAnswered ((a.create r "out" false).result w).1 := by
  intro a r w
  have hd : a.defaults.IsValid := ThemeDefaults.isValid_of_check (v := .mapping []) rfl
  have hname : ¬ a.defaults.Refuses r.name := by
    rw [← ThemeDefaults.isOk_judge]
    decide
  have hdirectory : (FilePath.ofText "out").IsUsable := ⟨Text.bytes "out", by decide⟩
  obtain ⟨hanswer, -, -, -, -, -, hread⟩ :=
    @create_answer Template.standardEngine a r "out" false w hd hname hdirectory
  have huser : w.store.userFile? w.files a.template = some (Bundled.themeSource.bytes, 0) := by
    decide
  have hsource : Bundled.themeSource.IsEncodable := by decide +kernel
  have hplain : Bundled.themeSource.universalNewlines = Bundled.themeSource := by decide +kernel
  have hfound := hread (some "tpl") Bundled.themeSource 0 rfl huser hsource
  rw [hplain, Bundled.compile?_themeSource] at hfound
  refine ⟨hd, hname, hdirectory, hfound, hanswer.mpr ⟨fun e h => ?_, fun c h => ?_, ?_⟩⟩
  · exact nomatch hfound.symm.trans h
  · exact nomatch hfound.symm.trans h
  · intro t ht f hf
    obtain rfl := Except.ok.inj (hfound.symm.trans ht)
    beta_reduce at hf
    rw [Bundled.expand?_theme] at hf
    exact nomatch hf

/-- **A division by zero in a template goes past the answer.** -/
theorem create_division :
    let a : ThemeAction := {}
    let r : ThemeRequest := ⟨"A", true⟩
    let w := userWorld "\x7b\x7b 1/0 \x7d\x7d"
    let o := ((a.create r "out" false).result w).1
    a.defaults.IsValid ∧ ¬ a.defaults.Refuses r.name ∧ (FilePath.ofText "out").IsUsable ∧
    o = .error (.unhandled (.operation (.division .exact))) ∧ ¬ ThemeAction.IsAnswered o := by
  intro a r w o
  have hd : a.defaults.IsValid := ThemeDefaults.isValid_of_check (v := .mapping []) rfl
  have hname : ¬ a.defaults.Refuses r.name := by
    rw [← ThemeDefaults.isOk_judge]
    decide
  have ho : o = .error (.unhandled (.operation (.division .exact))) := by decide +kernel
  exact ⟨hd, hname, ⟨Text.bytes "out", by decide⟩, ho, fun h => nomatch h _ ho⟩

end ThemeForge

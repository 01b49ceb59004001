import ThemeForge.Proofs.Theme.Generator
import ThemeForge.Proofs.World.Creation

/-!
# What performing an action does

Everything that is decided before a file is written is a function of the request and of what the
store finds.

* `ThemeAction.plan?`: the name and the bytes of the file for a request;
* `ThemeAction.plan?_of_matches`: where the same is found, the same is planned;
* `ThemeAction.isPortable_of_plan?`: the name of a planned file;
* `ThemeAction.returned`: the path that an action returned;
* `ThemeAction.perform_of_request_error`, `ThemeAction.perform_of_cancelled`: performing an action
  without a request;
* **`ThemeAction.perform_of_plan_error`**, **`ThemeAction.perform_of_plan_ok`**: performing an
  action, by its plan.
-/

namespace ThemeForge

variable [Template.Engine]

namespace ThemeAction

variable {a : ThemeAction} {r : ThemeRequest} {w : World}

/-- The name and the bytes of the file for a request. -/
def plan? (a : ThemeAction) (r : ThemeRequest) (s : TemplateStore) (fs : FileSystem) :
    Except Failure (Text × Bytes) := do
  let g ← (a.defaults.generate? r).mapError Run.generateFailure
  let t ← (s.get? fs a.template).2.mapError (Run.storeFailure a.template)
  let bytes ← Run.draft? (s.library fs) t g.fileName g.properties.toValues
  return (g.fileName, bytes)

theorem plan?_of_error {f : GenerateFault} (h : a.defaults.generate? r = .error f)
    (s : TemplateStore) (fs : FileSystem) : a.plan? r s fs = .error (Run.generateFailure f) := by
  rw [plan?, h]
  rfl

section Found

variable {g : GeneratedFile} {s : TemplateStore} {fs : FileSystem}
  (hg : a.defaults.generate? r = .ok g)
include hg

theorem plan?_of_get?_error {f : StoreFault} (h : (s.get? fs a.template).2 = .error f) :
    a.plan? r s fs = .error (Run.storeFailure a.template f) := by
  rw [plan?, hg, h]
  rfl

theorem plan?_of_get?_ok {t : Template} (h : (s.get? fs a.template).2 = .ok t) :
    a.plan? r s fs = do
      let bytes ← Run.draft? (s.library fs) t g.fileName g.properties.toValues
      return (g.fileName, bytes) := by
  rw [plan?, hg, h]
  rfl

end Found

theorem plan?_of_matches {s s' : TemplateStore} {fs fs' : FileSystem} (h : s.Matches fs s' fs')
    (a : ThemeAction) (r : ThemeRequest) : a.plan? r s' fs' = a.plan? r s fs := by
  unfold plan?
  rw [h.get?, h.library]

theorem exists_of_plan?_eq_ok {s : TemplateStore} {fs : FileSystem} {n : Text} {bytes : Bytes}
    (h : a.plan? r s fs = .ok (n, bytes)) :
    ∃ g, a.defaults.generate? r = .ok g ∧ n = g.fileName ∧
      FilePath.isBareName g.fileName = true := by
  obtain ⟨g, hg, h⟩ := Except.bind_eq_ok_iff.mp h
  obtain ⟨t, -, h⟩ := Except.bind_eq_ok_iff.mp h
  obtain ⟨bytes', hdraft, h⟩ := Except.bind_eq_ok_iff.mp h
  cases h
  exact ⟨g, Except.mapError_eq_ok_iff.mp hg, rfl, (Run.draft?_eq_ok_iff.mp hdraft).1⟩

/-- A file that is planned has a name that any system accepts. -/
theorem isPortable_of_plan? (hd : a.defaults.IsValid) {s : TemplateStore} {fs : FileSystem}
    {n : Text} {bytes : Bytes} (h : a.plan? r s fs = .ok (n, bytes)) : FileName.IsPortable n := by
  obtain ⟨g, hg, rfl, -⟩ := exists_of_plan?_eq_ok h
  exact ThemeDefaults.isPortable_of_generate? hd hg

/-- The steps of creating a file, as far as they concern the world. -/
theorem result_create (a : ThemeAction) (r : ThemeRequest) (directory : Text) (diskFull : Bool)
    (w : World) : ∃ w', World.Quiet w w' ∧
      (∀ f, a.plan? r w.store w.files = .error f →
        (a.create r directory diskFull).result w = (.error f, w')) ∧
      ∀ n bytes, a.plan? r w.store w.files = .ok (n, bytes) →
        (∀ t, w.store.find? w.files a.template = .ok ⟨none, t⟩ → w'.store.Pins a.template t) ∧
        ∃ t, (a.create r directory diskFull).result w =
          (do
            Run.place (.ofText directory) n bytes diskFull
            Run.noteCreated t ((FilePath.ofText directory).child n)
            return (FilePath.ofText directory).child n : Run FilePath).result w' := by
  unfold create
  obtain ⟨w₁, hw₁, hq₁⟩ := (Run.isQuiet_generate a.defaults r).exists_result
    (Run.result_generate_fst a.defaults r w)
  rcases hg : a.defaults.generate? r with e | g
  · rw [hg] at hw₁
    rw [plan?_of_error hg]
    refine ⟨w₁, hq₁, fun f hf => ?_, fun _ _ h => nomatch h⟩
    cases hf
    exact Run.result_bind_error hw₁ _
  rw [hg] at hw₁
  rw [Run.result_bind_ok hw₁]
  obtain ⟨w₂, hw₂, hq₂, hpins⟩ := Run.exists_result_template a.template w₁
  rw [hq₁.store.get?] at hw₂
  rw [hq₁.store.find?] at hpins
  rcases ht : (w.store.get? w.files a.template).2 with e | t
  · rw [ht] at hw₂
    rw [plan?_of_get?_error hg ht]
    refine ⟨w₂, hq₁.trans hq₂, fun f hf => ?_, fun _ _ h => nomatch h⟩
    cases hf
    exact Run.result_bind_error hw₂ _
  rw [ht] at hw₂
  rw [Run.result_bind_ok hw₂, plan?_of_get?_ok hg ht]
  obtain ⟨w₃, hw₃, hq₃⟩ := (Run.isQuiet_draft t g.fileName g.properties.toValues).exists_result
    (Run.result_draft_fst t g.fileName g.properties.toValues w₂)
  rw [hq₂.store.library, hq₁.store.library] at hw₃
  refine ⟨w₃, (hq₁.trans hq₂).trans hq₃, ?_⟩
  rcases hd : Run.draft? (w.store.library w.files) t g.fileName g.properties.toValues
    with e | bytes
  · rw [hd] at hw₃
    refine ⟨fun f hf => ?_, fun _ _ h => nomatch h⟩
    cases hf
    exact Run.result_create_of_error hw₃ directory diskFull
  · rw [hd] at hw₃
    refine ⟨fun f hf => (nomatch hf), fun n bytes' h => ?_⟩
    cases h
    exact ⟨fun t' ht' => hq₃.pins _ _ (hpins t' ht'), t, Run.result_bind_ok hw₃ _⟩

omit [Template.Engine] in
theorem result_register (a : ThemeAction) (path : FilePath) (w : World) :
    ∃ w', (a.register path).result w = (.ok (), w') ∧ w'.files = w.files ∧
      w'.store = w.store ∧ w'.registered = w.registered ++ [path] := by
  unfold register
  cases a.hasRegistry with
  | false => exact ⟨_, rfl, rfl, rfl, rfl⟩
  | true => exact ⟨_, rfl, rfl, rfl, rfl⟩

/-- The path that an action returned. -/
def returned : Except Failure (Option FilePath) → Option FilePath
  | .ok path => path
  | .error _ => none

omit [Template.Engine] in
theorem returned_eq_some_iff {o : Except Failure (Option FilePath)} {path : FilePath} :
    returned o = some path ↔ o = .ok (some path) := by
  rcases o with f | _ | q <;> simp [returned]

section Asking

variable {p : Provider} (directory : Text) (diskFull : Bool)

theorem perform_of_request_error {f : Failure} (h : ((a.request p).result w).1 = .error f) :
    ∃ w', (a.perform p directory diskFull).result w = (.error f, w') ∧ World.Quiet w w' := by
  obtain ⟨w', hw', hquiet⟩ := (Run.isQuiet_request a p).exists_result h
  exact ⟨w', Run.result_bind_error hw' _, hquiet⟩

/-- A user who cancels leaves no trace but a record. -/
theorem perform_of_cancelled (h : ((a.request p).result w).1 = .ok none) :
    ∃ w', (a.perform p directory diskFull).result w = (.ok none, w') ∧ World.Quiet w w' := by
  obtain ⟨w', hw', hquiet⟩ := (Run.isQuiet_request a p).exists_result h
  unfold perform
  rw [Run.result_bind_ok hw']
  exact ⟨_, rfl, hquiet.trans (Run.isQuiet_note _ _ _ _ w')⟩

end Asking

section Perform

variable {p : Provider} (directory : Text) (diskFull : Bool)
  (hrequest : ((a.request p).result w).1 = .ok (some r))
include hrequest

/-- What cannot be planned fails without touching a file. -/
theorem perform_of_plan_error {f : Failure} (hplan : a.plan? r w.store w.files = .error f) :
    ∃ w', (a.perform p directory diskFull).result w = (.error f, w') ∧ World.Quiet w w' := by
  obtain ⟨w₁, hw₁, hq₁⟩ := (Run.isQuiet_request a p).exists_result hrequest
  obtain ⟨w₂, hq₂, hfail, -⟩ := result_create a r directory diskFull w₁
  rw [plan?_of_matches hq₁.store] at hfail
  refine ⟨w₂, ?_, hq₁.trans hq₂⟩
  unfold perform
  rw [Run.result_bind_ok hw₁]
  exact Run.result_bind_error (hfail f hplan) _

/-- What is planned is placed, and registered if that succeeds. -/
theorem perform_of_plan_ok {n : Text} {bytes : Bytes}
    (hplan : a.plan? r w.store w.files = .ok (n, bytes)) :
    ∃ (placed : Except Failure Unit) (o : Except Failure (Option FilePath)) (v w' : World),
      World.Quiet w v ∧
      (∀ t, w.store.find? w.files a.template = .ok ⟨none, t⟩ → v.store.Pins a.template t) ∧
      Run.Placed (.ofText directory) n bytes w.files diskFull placed w'.files ∧
      o = placed.map (fun _ => some ((FilePath.ofText directory).child n)) ∧
      (a.perform p directory diskFull).result w = (o, w') ∧ w'.store = v.store ∧
      w'.registered = w.registered ++ (returned o).toList := by
  obtain ⟨w₁, hw₁, hq₁⟩ := (Run.isQuiet_request a p).exists_result hrequest
  obtain ⟨w₂, hq₂, -, hcreate⟩ := result_create a r directory diskFull w₁
  rw [plan?_of_matches hq₁.store] at hcreate
  obtain ⟨hpins, t, hcreate⟩ := hcreate n bytes hplan
  rw [hq₁.store.find?] at hpins
  have hq := hq₁.trans hq₂
  obtain ⟨placed, fs, hplace, hplaced⟩ :=
    Run.result_place (.ofText directory) n bytes diskFull w₂
  rw [hq.files] at hplaced
  unfold perform
  rw [Run.result_bind_ok hw₁]
  simp only
  cases placed with
  | error f =>
    rw [Run.result_bind_error hplace] at hcreate
    refine ⟨_, .error f, w₂, { w₂ with files := fs }, hq, hpins, hplaced, rfl,
      Run.result_bind_error hcreate _, rfl, ?_⟩
    simp [hq.registered, returned]
  | ok u =>
    obtain ⟨w₃, hw₃, hfiles₃, hstore₃, hregistered₃⟩ := Run.result_noteCreated t
      ((FilePath.ofText directory).child n) { w₂ with files := fs }
    rw [Run.result_bind_ok hplace, Run.result_bind_ok hw₃] at hcreate
    obtain ⟨w₄, hw₄, hfiles₄, hstore₄, hregistered₄⟩ := result_register a
      ((FilePath.ofText directory).child n) w₃
    refine ⟨.ok (), .ok (some ((FilePath.ofText directory).child n)), w₂, w₄, hq, hpins, ?_, rfl,
      ?_, hstore₄.trans hstore₃, ?_⟩
    · rw [hfiles₄, hfiles₃]
      exact hplaced
    · rw [Run.result_bind_ok hcreate, Run.result_bind_ok hw₄]
      rfl
    · simp [hregistered₄, hregistered₃, hq.registered, returned]

end Perform

end ThemeAction

end ThemeForge

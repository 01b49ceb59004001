import ThemeForge.Proofs.World.Steps

/-!
# Quiet runs

Taking templates, rendering and writing records touch no file, and leave a store that finds the
same.

* `World.Quiet`: what such a run changes at most; `World.Quiet.covers`: it covers looking and
  talking;
* `Run.IsQuiet`: runs that change no more; `Run.isQuiet_generate`, `Run.isQuiet_template`,
  `Run.isQuiet_draft`: the steps before a file is written;
* `Run.draft?`, `Run.result_draft_fst`: what is written depends on what the store finds.
-/

namespace ThemeForge

variable [Template.Engine]

/-- Files and registry are the same, and the store finds the same. -/
structure World.Quiet (w w' : World) : Prop where
  files : w'.files = w.files
  registered : w'.registered = w.registered
  store : w.store.Matches w.files w'.store w'.files
  reached : w.store.Reached → w'.store.Reached
  pins : ∀ n t, w.store.Pins n t → w'.store.Pins n t

namespace World.Quiet

variable {w w' w'' : World}

theorem refl (w : World) : Quiet w w := ⟨rfl, rfl, .refl _ _, id, fun _ _ => id⟩

theorem trans (h : Quiet w w') (h' : Quiet w' w'') : Quiet w w'' where
  files := h'.files.trans h.files
  registered := h'.registered.trans h.registered
  store := h.store.trans h'.store
  reached := h'.reached ∘ h.reached
  pins n t := h'.pins n t ∘ h.pins n t

theorem covers : CoversTalking Quiet where
  refl := refl
  trans := trans
  note _ _ _ := ⟨rfl, rfl, .refl _ _, id, fun _ _ => id⟩
  find w n := ⟨rfl, rfl, TemplateStore.matches_get? _ _ _, .get? _ _, fun _ _ h => h.get? _ _⟩
  expand w t values := ⟨rfl, rfl, TemplateStore.matches_expand? _ _ _ _, .expand? _ _ _,
    fun _ _ h => h.keepAll _ _⟩
  talk _ _ := ⟨rfl, rfl, .refl _ _, id, fun _ _ => id⟩
  load _ _ := ⟨rfl, rfl, .refl _ _, id, fun _ _ => id⟩
  restore {w w' s} h := by
    have hfiles : w'.files = w.files := h.files
    refine ⟨hfiles, h.registered, ?_, id, fun _ _ => id⟩
    rw [hfiles]
    exact .refl _ _

end World.Quiet

namespace Run

variable {α : Type}

/-- Whatever the outcome, the run touches no file and leaves a store that finds the same. -/
def IsQuiet (act : Run α) : Prop := ∀ w, World.Quiet w (result act w).2

theorem isQuiet_note (level : Int) (logger message : Text) (extra : Option Value) :
    IsQuiet (note level logger message extra) :=
  fun _ => ⟨rfl, rfl, .refl _ _, id, fun _ _ => id⟩

theorem IsQuiet.exists_result {act : Run α} (h : IsQuiet act) {w : World}
    {o : Except Failure α} (ho : (result act w).1 = o) :
    ∃ w', result act w = (o, w') ∧ World.Quiet w w' :=
  ⟨_, Prod.ext ho rfl, h w⟩

/-! ## The steps before a file is written -/

theorem isQuiet_request (a : ThemeAction) (p : Provider) : IsQuiet (a.request p) :=
  isCovered_request World.Quiet.covers a p

theorem isQuiet_generate (d : ThemeDefaults) (r : ThemeRequest) : IsQuiet (generate d r) :=
  isCovered_generate World.Quiet.covers.toCoversLooking d r

theorem result_template_fst (n : Text) (w : World) : (result (template n) w).1 =
    ((w.store.find? w.files n).map KeptTemplate.template).mapError (storeFailure n) := by
  rw [result_template, TemplateStore.get?_snd]

theorem isQuiet_template (n : Text) : IsQuiet (template n) :=
  isCovered_template World.Quiet.covers.toCoversLooking n

/-- A template without a stamp stays in the store. -/
theorem exists_result_template (n : Text) (w : World) :
    ∃ w', result (template n) w = ((w.store.get? w.files n).2.mapError (storeFailure n), w') ∧
      World.Quiet w w' ∧ ∀ t, w.store.find? w.files n = .ok ⟨none, t⟩ → w'.store.Pins n t := by
  have hquiet := isQuiet_template n w
  rw [result_template] at hquiet
  exact ⟨_, result_template n w, hquiet, fun _ => TemplateStore.pins_get?⟩

theorem isQuiet_render (t : Template) (values : TemplateValues) : IsQuiet (render t values) :=
  isCovered_render World.Quiet.covers.toCoversLooking t values

/-- The bytes of a new file. -/
def draft? (library : Template.Library) (t : Template) (fileName : Text)
    (values : TemplateValues) : Except Failure Bytes := do
  if !FilePath.isBareName fileName then throw (.rendering (.fileName fileName))
  let text ← rendered? library t values
  text.encode?.mapError fun f => .rendering (.encoding t.name f)

theorem draft?_of_isBareName {fileName : Text} (h : FilePath.isBareName fileName = true)
    (library : Template.Library) (t : Template) (values : TemplateValues) :
    draft? library t fileName values = rendered? library t values >>= fun text =>
      text.encode?.mapError fun f => .rendering (.encoding t.name f) := by
  unfold draft?
  rw [h]
  rfl

theorem draft?_eq_ok_iff {library : Template.Library} {t : Template} {fileName : Text}
    {values : TemplateValues} {bytes : Bytes} :
    draft? library t fileName values = .ok bytes ↔ FilePath.isBareName fileName = true ∧
      ∃ text, rendered? library t values = .ok text ∧ text.encode? = .ok bytes := by
  cases hbare : FilePath.isBareName fileName with
  | false =>
    unfold draft?
    rw [hbare]
    exact iff_of_false (nomatch ·) (nomatch ·.1)
  | true =>
    rw [draft?_of_isBareName hbare, Except.bind_eq_ok_iff]
    simp only [Except.mapError_eq_ok_iff, true_and]

/-- A draft fails by what is wrong with the template or its use, or by what nothing handles. -/
theorem draft?_cases {library : Template.Library} {t : Template} {fileName : Text}
    {values : TemplateValues} {f : Failure} (h : draft? library t fileName values = .error f) :
    (∃ x, f = .rendering x) ∨ ∃ x, f = .unhandled x := by
  cases hbare : FilePath.isBareName fileName with
  | false =>
    unfold draft? at h
    rw [hbare] at h
    cases h
    exact .inl ⟨_, rfl⟩
  | true =>
    rw [draft?_of_isBareName hbare, Except.bind_eq_error_iff] at h
    rcases h with h | ⟨text, -, h⟩
    · unfold rendered? at h
      split at h
      · cases h
        exact .inr ⟨_, rfl⟩
      · generalize (t.expand? library values).1 = expanded at h
        rcases expanded with (_ | _ | _ | _) | text <;> cases h
        · exact .inl ⟨_, rfl⟩
        all_goals exact .inr ⟨_, rfl⟩
    · obtain ⟨x, -, rfl⟩ := Except.mapError_eq_error_iff.mp h
      exact .inl ⟨_, rfl⟩

theorem draft?_ne_writing {library : Template.Library} {t : Template} {fileName : Text}
    {values : TemplateValues} (x : Failure.Writing) :
    draft? library t fileName values ≠ .error (.writing x) := by
  intro h
  rcases draft?_cases h with ⟨_, h⟩ | ⟨_, h⟩ <;> exact nomatch h

theorem result_draft_fst (t : Template) (fileName : Text) (values : TemplateValues) (w : World) :
    (result (draft t fileName values) w).1 =
      draft? (w.store.library w.files) t fileName values := by
  unfold draft draft?
  cases FilePath.isBareName fileName with
  | false => rfl
  | true =>
    simp only [Bool.not_true, Bool.false_eq_true, if_false, result_bind, result_render,
      result_ofExcept]
    cases rendered? (w.store.library w.files) t values <;> rfl

theorem isQuiet_draft (t : Template) (fileName : Text) (values : TemplateValues) :
    IsQuiet (draft t fileName values) :=
  isCovered_draft World.Quiet.covers.toCoversLooking t fileName values

/-- Where the same is found, the same is written. -/
theorem result_draft_of_matches {t : Template} {fileName : Text} {values : TemplateValues}
    {w v : World} (h : w.store.Matches w.files v.store v.files) {bytes : Bytes}
    (hw : (result (draft t fileName values) w).1 = .ok bytes) :
    ∃ v', result (draft t fileName values) v = (.ok bytes, v') ∧ v'.files = v.files := by
  refine ⟨(result (draft t fileName values) v).2, Prod.ext ?_ rfl,
    (isQuiet_draft t fileName values v).files⟩
  rw [result_draft_fst] at hw ⊢
  rw [h.library, hw]

end Run

end ThemeForge

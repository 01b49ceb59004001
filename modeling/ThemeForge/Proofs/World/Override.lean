import ThemeForge.Platform
import ThemeForge.Proofs.World.Configuration

/-!
# What overrides change

Two variables override one entry each. Settings that load without them load with them, whatever
their values, and are the same but for the two entries; so is the configuration.

* `Variables.assign`, `Overrides.of_assign`: the two variables in an environment;
* `Configuration.IsOverridden`, `Configuration.exists_overlay?_of_settings?`: the mapping with
  overrides, and the one without;
* `Settings.override`, `Configuration.settings?_of_isOverridden`: the settings with overrides;
* **`settings_override`**: loading with overrides against loading without.
-/

namespace ThemeForge

/-! ## Variables -/

namespace Variables

variable {n name : Text} {vs : Variables}

/-- Gives a variable a value, or removes it. -/
def assign (name : Text) : Option Text → Variables → Variables
  | some value => set name value
  | none => unset name

/-- No variable has the name, in whatever case. -/
def IsFree (n : Text) (vs : Variables) : Prop := ∀ e ∈ vs, Text.lower e.1 ≠ n

instance (n : Text) (vs : Variables) : Decidable (IsFree n vs) :=
  inferInstanceAs (Decidable (∀ e ∈ vs, Text.lower e.1 ≠ n))

theorem set_of_isFree (h : vs.IsFree (Text.lower name)) (value : Text) :
    set name value vs = vs ++ [(name, value)] := by
  induction vs with
  | nil => rfl
  | cons e vs ih =>
    obtain ⟨he, hvs⟩ := List.forall_mem_cons.mp h
    have hne : e.1 ≠ name := fun heq => he (congrArg Text.lower heq)
    rw [set, if_neg hne, ih hvs, List.cons_append]

theorem unset_of_isFree (h : vs.IsFree (Text.lower name)) : unset name vs = vs := by
  refine List.filter_eq_self.mpr fun e he => bne_iff_ne.mpr fun heq => ?_
  exact h e he (congrArg Text.lower heq)

/-- A variable whose name is free goes to the end, if it is given a value. -/
theorem assign_of_isFree (h : vs.IsFree (Text.lower name)) (value : Option Text) :
    assign name value vs = vs ++ (value.map (name, ·)).toList := by
  cases value with
  | none => exact (unset_of_isFree h).trans (List.append_nil vs).symm
  | some v => exact set_of_isFree h v

theorem IsFree.assign (h : vs.IsFree n) (hname : vs.IsFree (Text.lower name))
    (hne : Text.lower name ≠ n) (value : Option Text) : (vs.assign name value).IsFree n := by
  rw [assign_of_isFree hname]
  intro e he
  rcases List.mem_append.mp he with he | he
  · exact h e he
  · obtain ⟨v, -, rfl⟩ := Option.map_eq_some_iff.mp (Option.mem_toList.mp he)
    exact hne

/-- The last value of a name, whatever its case. -/
def valueOf (n : Text) (vs : Variables) : Option Text :=
  Overrides.lastOf n (vs.map fun e => (e.1, some e.2))

theorem valueOf_of_isFree (h : vs.IsFree n) : vs.valueOf n = none := by
  unfold valueOf Overrides.lastOf
  rw [List.find?_eq_none.mpr]
  · rfl
  · intro e he
    obtain ⟨d, hd, rfl⟩ := List.mem_map.mp (List.mem_reverse.mp he)
    simpa using h d hd

theorem valueOf_assign (h : vs.IsFree (Text.lower name)) (value : Option Text) :
    (vs.assign name value).valueOf n = if Text.lower name = n then value else vs.valueOf n := by
  rw [assign_of_isFree h]
  cases value with
  | none =>
    rw [Option.map_none, Option.toList_none, List.append_nil]
    split
    · rename_i heq
      exact valueOf_of_isFree (heq ▸ h)
    · rfl
  | some v =>
    unfold valueOf Overrides.lastOf
    by_cases heq : Text.lower name = n <;> simp [heq]

end Variables

namespace Overrides

/-- The variable for the level of logging. -/
def levelVariable : Text := "THEMEKIT_LOG_LEVEL"

/-- The variable for the directory of templates. -/
def directoryVariable : Text := "THEMEKIT_TEMPLATES_DIR"

theorem lower_levelVariable : Text.lower levelVariable = levelName := by decide

theorem lower_directoryVariable : Text.lower directoryVariable = directoryName := by
  decide

theorem of_nil (environment : Variables) :
    of environment [] = ⟨environment.valueOf levelName, environment.valueOf directoryName⟩ := by
  change Overrides.mk ((environment.valueOf levelName).or none)
    ((environment.valueOf directoryName).or none) = _
  rw [Option.or_none, Option.or_none]

/-- No variable overrides a setting. -/
structure IsFree (environment : Variables) : Prop where
  level : environment.IsFree levelName
  directory : environment.IsFree directoryName

/-- The environment with other values of the two variables. -/
def assign (o : Overrides) (environment : Variables) : Variables :=
  (environment.assign levelVariable o.level).assign directoryVariable o.directory

theorem of_isFree {environment : Variables} (h : IsFree environment) :
    of environment [] = ⟨none, none⟩ := by
  rw [of_nil, Variables.valueOf_of_isFree h.level, Variables.valueOf_of_isFree h.directory]

/-- The values of the two variables are the overrides. -/
theorem of_assign {environment : Variables} (h : IsFree environment) (o : Overrides) :
    of (o.assign environment) [] = o := by
  have hne : levelName ≠ directoryName := by decide
  have hlevel : environment.IsFree (Text.lower levelVariable) := lower_levelVariable ▸ h.level
  have hdirectory :
      (environment.assign levelVariable o.level).IsFree (Text.lower directoryVariable) := by
    rw [lower_directoryVariable]
    exact h.directory.assign hlevel (lower_levelVariable ▸ hne) o.level
  rw [of_nil, assign, Variables.valueOf_assign hdirectory, Variables.valueOf_assign hlevel,
    Variables.valueOf_assign hdirectory, lower_levelVariable, lower_directoryVariable,
    if_neg hne.symm, if_pos rfl, if_pos rfl]

end Overrides

/-! ## Sections -/

namespace Checked

variable {α : Type}

/-- A field that takes any text passes with an override. -/
theorem field_of_override {m m' : Value.Mapping} {key : Text} {value : Option Text} {fallback a : α}
    (check : Value → Checked α) (ofText : Text → α)
    (hcheck : ∀ t, check (.text t) = .valid (ofText t))
    (hget : m'.getText? key = (value.map Value.text).or (m.getText? key))
    (h : field m key fallback check = .valid a) :
    field m' key fallback check = .valid ((value.map ofText).getD a) := by
  cases value with
  | none => rwa [field_congr hget]
  | some t =>
    unfold field
    rw [hget, Option.map_some, Option.some_or]
    exact under_eq_valid_iff.mpr (hcheck t)

end Checked

theorem LoggingSettings.check_of_override {entries entries' : Value.Mapping} {value : Option Text}
    {l : LoggingSettings} (h : check (.mapping entries) = .valid l)
    (hget : entries'.getText? "level" = (value.map Value.text).or (entries.getText? "level")) :
    check (.mapping entries') = .valid ⟨value.getD l.level⟩ := by
  obtain ⟨level, hlevel, rfl⟩ := Checked.map_eq_valid_iff.mp h
  have hfield := Checked.field_of_override _ id (fun _ => rfl) hget hlevel
  refine Checked.map_eq_valid_iff.mpr ⟨_, hfield, ?_⟩
  rw [Option.map_id]
  rfl

theorem TemplateSettings.check_of_override {entries entries' : Value.Mapping}
    {value : Option Text} {s : TemplateSettings} (h : check (.mapping entries) = .valid s)
    (hget : entries'.getText? "dir" = (value.map Value.text).or (entries.getText? "dir"))
    (hother : entries'.getText? "theme_json" = entries.getText? "theme_json") :
    check (.mapping entries') = .valid { s with directory := value.or s.directory } := by
  obtain ⟨f, t, hf, ht, rfl⟩ := Checked.ap_eq_valid_iff.mp h
  obtain ⟨d, hd, rfl⟩ := Checked.map_eq_valid_iff.mp hf
  have hfield := Checked.field_of_override _ some (fun _ => rfl) hget hd
  refine Checked.ap_eq_valid_iff.mpr ⟨_, t, Checked.map_eq_valid_iff.mpr ⟨_, hfield, rfl⟩, ?_, ?_⟩
  · rwa [Checked.field_congr hother]
  · cases value <;> rfl

/-- Settings with overrides; an override that is empty counts for nothing. -/
def Settings.override (o : Overrides) (s : Settings) : Settings where
  logging := ⟨(o.level.filter (· ≠ [])).getD s.logging.level⟩
  templates := { s.templates with
    directory := (o.directory.filter (· ≠ [])).or s.templates.directory }
  themes := s.themes

namespace Configuration

open Value (Mapping)

/-- One section of two configurations: the entries are the same but for that at a key, which is the
override unless this is absent or empty. -/
def IsOverriddenAt (sectionName key : Text) (value : Option Text) (m m' : Mapping) : Prop :=
  ∃ entries entries', m.entriesAt? sectionName = some entries ∧
    m'.entriesAt? sectionName = some entries' ∧ entries.AgreesOff [key] entries' ∧
    entries'.getText? key =
      ((value.filter (· ≠ [])).map Value.text).or (entries.getText? key)

/-- Two configurations are the same but for the overridden entries of two sections. -/
structure IsOverridden (o : Overrides) (m m' : Mapping) : Prop where
  outside : m.AgreesOff ["logging", "templates"] m'
  logging : IsOverriddenAt "logging" "level" o.level m m'
  templates : IsOverriddenAt "templates" "dir" o.directory m m'

theorem section?_of_entriesAt? {m entries : Mapping} {sectionName : Text}
    (h : m.entriesAt? sectionName = some entries) {v : Value}
    (hv : (m.getText? sectionName).getD .null = v) : section? v = .ok entries := by
  subst hv
  rcases Mapping.entriesAt?_eq_some_iff.mp h with ⟨hnone, rfl⟩ | hsome
  · rw [hnone]
    rfl
  · rw [hsome]
    cases entries <;> rfl

/-- A section that is a mapping, or is missing, takes an override. -/
theorem exists_setIn?_of_entriesAt? {m entries : Mapping} {sectionName : Text} (key : Text)
    (value : Option Text) (h : m.entriesAt? sectionName = some entries) :
    ∃ m', setIn? sectionName key value m = .ok m' ∧ m.AgreesOff [sectionName] m' ∧
      IsOverriddenAt sectionName key value m m' := by
  have hunchanged : m.AgreesOff [sectionName] m ∧ IsOverriddenAt sectionName key none m m :=
    ⟨.refl _ _, entries, entries, h, h, .refl _ _, rfl⟩
  unfold setIn?
  split
  · exact ⟨m, rfl, hunchanged⟩
  · exact ⟨m, rfl, hunchanged⟩
  · rename_i t hne
    rw [section?_of_entriesAt? h rfl]
    refine ⟨_, rfl, .put _ _ m, entries, entries.put (.text key) (.text t), h, ?_,
      .put _ _ entries, ?_⟩
    · exact Mapping.entriesAt?_eq_some_iff.mpr (.inr (by rw [Mapping.getText?_put, if_pos rfl]))
    · have ht : t ≠ [] := hne
      rw [Mapping.getText?_put, if_pos rfl, Option.filter_some, if_pos (decide_eq_true ht)]
      rfl

/-- Two sections that are mappings, or are missing, take their overrides. -/
theorem exists_overlay?_of_entriesAt? (o : Overrides) {m logging templates : Mapping}
    (hlogging : m.entriesAt? "logging" = some logging)
    (htemplates : m.entriesAt? "templates" = some templates) :
    ∃ m', overlay? o m = .ok m' ∧ IsOverridden o m m' := by
  obtain ⟨m₁, hm₁, hoff₁, hat₁⟩ := exists_setIn?_of_entriesAt? "level" o.level hlogging
  -- the second section is still as it was, and the first is after that as it is now
  have hbefore : m₁.entriesAt? "templates" = m.entriesAt? "templates" :=
    hoff₁.entriesAt?_eq (by decide)
  obtain ⟨m₂, hm₂, hoff₂, hat₂⟩ :=
    exists_setIn?_of_entriesAt? "dir" o.directory (hbefore.trans htemplates)
  have hafter : m₂.entriesAt? "logging" = m₁.entriesAt? "logging" :=
    hoff₂.entriesAt?_eq (by decide)
  refine ⟨m₂, Except.bind_eq_ok_iff.mpr ⟨m₁, hm₁, hm₂⟩, ?_, ?_, ?_⟩
  · exact (hoff₁.mono (by decide)).trans (hoff₂.mono (by decide))
  · unfold IsOverriddenAt at hat₁ ⊢
    rwa [hafter]
  · unfold IsOverriddenAt at hat₂ ⊢
    rwa [← hbefore]

/-! ## Settings -/

variable [Format]

theorem settings?_eq_ok_iff {m : Mapping} {s : Settings} :
    settings? m = .ok s ↔ Settings.check (.mapping m) = .valid s := by
  unfold settings?
  rw [Except.mapError_eq_ok_iff]
  cases Settings.check (.mapping m) <;> simp [Checked.toExcept]

/-- What passes has sections that take overrides. -/
theorem exists_overlay?_of_settings? {m : Mapping} {s : Settings} (h : settings? m = .ok s)
    (o : Overrides) : ∃ m', overlay? o m = .ok m' ∧ IsOverridden o m m' := by
  obtain ⟨⟨_, hlogging, -⟩, ⟨_, htemplates, -⟩, -⟩ :=
    Settings.check_eq_valid_iff.mp (settings?_eq_ok_iff.mp h)
  exact exists_overlay?_of_entriesAt? o hlogging htemplates

/-- **What passes without overrides passes with them.** -/
theorem settings?_of_isOverridden {o : Overrides} {m m' : Mapping} {s : Settings}
    (h : settings? m = .ok s) (ho : IsOverridden o m m') : settings? m' = .ok (s.override o) := by
  rw [settings?_eq_ok_iff, Settings.check_eq_valid_iff] at h ⊢
  obtain ⟨⟨logging, hlogging, hl⟩, ⟨templates, htemplates, ht⟩, ⟨themes, hthemes, hd⟩⟩ := h
  refine ⟨?_, ?_, ?_⟩
  · obtain ⟨_, logging', he, he', -, hget⟩ := ho.logging
    cases he.symm.trans hlogging
    exact ⟨logging', he', LoggingSettings.check_of_override hl hget⟩
  · obtain ⟨_, templates', he, he', hoff, hget⟩ := ho.templates
    cases he.symm.trans htemplates
    exact ⟨templates', he',
      TemplateSettings.check_of_override ht hget (hoff.getText?_eq (by decide))⟩
  · exact ⟨themes, (ho.outside.entriesAt?_eq (by decide)).trans hthemes, hd⟩

/-! ## Loading -/

theorem read?_of_no_assignments {fs : FileSystem} (environment : Variables)
    (h : fs.file? assignmentsPath = none) :
    read? fs environment = fromFile? fs >>= fun m =>
      (overlay? (.of environment []) m).mapError fun f => .unhandled (.overlay f) := by
  have hoverrides : overrides? fs environment = .ok (.of environment []) := by
    unfold overrides?
    rw [show fs.file? (FilePath.ofText assignmentsFile) = none from h]
  unfold read?
  rw [hoverrides]
  rfl

/-- Without overrides the configuration is what the file says. -/
theorem read?_of_isFree {fs : FileSystem} {environment : Variables}
    (h : fs.file? assignmentsPath = none) (hfree : Overrides.IsFree environment) :
    read? fs environment = fromFile? fs := by
  rw [read?_of_no_assignments environment h, Overrides.of_isFree hfree]
  cases fromFile? fs <;> rfl

end Configuration

open ThemeForge.Configuration

/-- **Overrides change two entries and nothing else.** Settings that load without overrides load
with them, and are the same but for the overridden entries; so is the configuration, compared with
the file. -/
theorem settings_override [Format] {w : World} {s : Settings} (o : Overrides)
    (hempty : w.configuration = none) (hassignments : w.files.file? assignmentsPath = none)
    (hfree : Overrides.IsFree w.environment) (hs : (Run.settings.result w).1 = .ok s) :
    let w' := { w with environment := o.assign w.environment }
    (Run.settings.result w').1 = .ok (s.override o) ∧
    ∃ m m', fromFile? w.files = .ok m ∧ (Run.configuration.result w').1 = .ok m' ∧
      IsOverridden o m m' := by
  intro w'
  rw [Run.result_settings hempty, load?, read?_of_isFree hassignments hfree] at hs
  obtain ⟨m, hm, hsettings⟩ := Except.bind_eq_ok_iff.mp hs
  obtain ⟨m', hm', hoverridden⟩ := exists_overlay?_of_settings? hsettings o
  have hread : read? w'.files w'.environment = .ok m' := by
    rw [read?_of_no_assignments _ hassignments, Overrides.of_assign hfree, hm, Except.ok_bind, hm']
    rfl
  constructor
  · rw [Run.result_settings (w := w') hempty, load?, hread, Except.ok_bind]
    exact settings?_of_isOverridden hsettings hoverridden
  · refine ⟨m, m', hm, ?_, hoverridden⟩
    rw [Run.result_configuration (w := w') hempty, hread]

/-- Keys that are no texts and sections that no setting reads survive an override of their
siblings; an empty override changes nothing, and a missing section is made. -/
theorem settings_override_siblings :
    let t : Text := "logging: \x7blevel: error, 7: [x]\x7d\nother: \x7bdir: y\x7d\n"
    let w := configuredWorld t [("HOME", "/home")]
    let overridden (o : Overrides) : World := { w with environment := o.assign w.environment }
    (Run.settings.result w).1 = .ok { logging := ⟨"error"⟩ } ∧
    (∀ o, (Run.settings.result (overridden o)).1 =
      .ok (Settings.override o { logging := ⟨"error"⟩ })) ∧
    (Run.configuration.result (overridden ⟨some "debug", some "mine"⟩)).1.map
        (fun m => (Value.mapping m).plain) =
      .ok ("\x7b'logging': \x7b'level': 'debug', 7: ['x']\x7d, 'other': \x7b'dir': 'y'\x7d, " ++
        "'templates': \x7b'dir': 'mine'\x7d\x7d") := by
  intro t w overridden
  have hs : (Run.settings.result w).1 = .ok { logging := ⟨"error"⟩ } := by decide +kernel
  refine ⟨hs, fun o => ?_, ?_⟩
  · exact (settings_override o rfl rfl ⟨by decide, by decide⟩ hs).1
  · decide +kernel

end ThemeForge

import ThemeForge.Proofs.Schema.Checked

/-!
# Settings depend on their fields alone

What passes the check obeys the rules of its sections and, written as a value, passes again as the
same settings. Entries that no section declares have no part in this: neither the settings nor the
problems change when such entries are added, changed or removed.

* `Value.Mapping.edit`, `Value.Mapping.getText?_edit_of_ne`: one entry set or removed;
* `Value.AgreesOn`, `Checked.model_congr`: values that agree on the declared fields are checked
  alike;
* `Record.getText?_entries`, `Checked.field_entries`: the fields of a record that is written as a
  value;
* `Settings.check_toValue`: settings written as a value;
* `Settings.Agree`, `Settings.check_congr`: values that agree on the fields of every section;
* `Settings.Edit`, `Settings.agree_apply`, `Settings.check_applyAll`: one edit of an undeclared
  entry, and many;
* **`settings_projection`**: checking settings is a projection.
-/

namespace ThemeForge

/-! ## Edits of a mapping -/

namespace Value

instance (v : Value) (t : Text) : Decidable (v = .text t) := decidable_of_iff _ same_text_iff

namespace Mapping

/-- The mapping without what is at a key. -/
def remove (key : Value) (m : Mapping) : Mapping := m.filter fun e => !same e.1 key

/-- The mapping with a value set at a key, or with nothing there. -/
def edit (key : Value) : Option Value → Mapping → Mapping
  | some v, m => m.put key v
  | none, m => m.remove key

section Other

variable {key : Value} {k : Text}

/-- A key that is the same as a text is no other. -/
theorem same_text_eq_false (hkey : key ≠ .text k) {v : Value} (hv : same v key = true) :
    same v (.text k) = false := by
  rw [Bool.eq_false_iff, ne_eq, same_text_iff]
  rintro rfl
  exact hkey (same_text_left_iff.mp hv)

theorem getText?_put_of_ne (hkey : key ≠ .text k) (v : Value) (m : Mapping) :
    (m.put key v).getText? k = m.getText? k := by
  have hother : same key (.text k) = false := by
    rw [← Bool.not_eq_true, same_text_iff]
    exact hkey
  exact get?_put_of_apart hother (fun w hw => same_text_eq_false hkey hw) v m

theorem getText?_remove_of_ne (hkey : key ≠ .text k) (m : Mapping) :
    (m.remove key).getText? k = m.getText? k := by
  unfold getText? get? remove
  rw [List.find?_filter]
  congr 2
  funext e
  cases he : same e.1 key with
  | false => simp
  | true => simp [same_text_eq_false hkey he]

/-- An edit at one key leaves what is at a textual key that is another. -/
theorem getText?_edit_of_ne (hkey : key ≠ .text k) (change : Option Value) (m : Mapping) :
    (m.edit key change).getText? k = m.getText? k := by
  cases change with
  | some v => exact getText?_put_of_ne hkey v m
  | none => exact getText?_remove_of_ne hkey m

end Other

/-- The same is found at some textual keys. -/
def AgreesOn (keys : List Text) (m m' : Mapping) : Prop :=
  ∀ k ∈ keys, m'.getText? k = m.getText? k

end Mapping

/-- A value that is the same, or a mapping in which the same is found at some textual keys. -/
inductive AgreesOn (keys : List Text) : Value → Value → Prop
  | refl (v : Value) : AgreesOn keys v v
  | mapping {m m' : Mapping} (h : m.AgreesOn keys m') : AgreesOn keys (.mapping m) (.mapping m')

theorem rel_agreesOn_self (keys : List Text) (o : Option Value) :
    Option.Rel (AgreesOn keys) o o := by
  cases o with
  | none => exact .none
  | some v => exact .some (.refl v)

end Value

/-! ## Checks of declared fields -/

namespace Checked

variable {α : Type} {keys : List Text}

theorem model_congr {title : Text} {fields : Value.Mapping → Checked α}
    (hfields : ∀ m m', m.AgreesOn keys m' → fields m' = fields m) {v v' : Value}
    (h : v.AgreesOn keys v') : model title fields v' = model title fields v := by
  cases h with
  | refl => rfl
  | mapping h => exact hfields _ _ h

/-- A section is checked alike where the section agrees on what its check depends on. -/
theorem field_congr_of_rel {check : Value → Checked α}
    (hcheck : ∀ v v', v.AgreesOn keys v' → check v' = check v) {m m' : Value.Mapping} {key : Text}
    (h : Option.Rel (Value.AgreesOn keys) (m.getText? key) (m'.getText? key)) (fallback : α) :
    field m' key fallback check = field m key fallback check := by
  unfold field
  generalize m.getText? key = o, m'.getText? key = o' at h
  cases h with
  | some h => simp only [hcheck _ _ h]
  | none => rfl

end Checked

namespace Record

/-- The names of the fields. -/
def names (r : Record) : List Text := r.fields.map Prod.fst

/-- The entries of the mapping that a record is written as. -/
def entries (r : Record) : Value.Mapping := r.fields.map fun e => (.text e.1, e.2)

theorem getText?_entries (r : Record) (key : Text) :
    r.entries.getText? key = r.fields.lookup key := by
  unfold entries
  induction r.fields with
  | nil => rfl
  | cons e fields ih =>
    rw [List.map_cons, Value.Mapping.getText?_cons, ih, List.lookup_cons]
    by_cases h : e.1 = key
    · simp [h]
    · rw [if_neg h, beq_false_of_ne (Ne.symm h)]

end Record

/-- A field of a record passes if its value does. -/
theorem Checked.field_entries {α : Type} {r : Record} {key : Text} {v : Value} {fallback a : α}
    {check : Value → Checked α} (hv : r.fields.lookup key = some v) (hcheck : check v = .valid a) :
    field r.entries key fallback check = .valid a := by
  rw [field, r.getText?_entries, hv]
  exact under_eq_valid_iff.mpr hcheck

section Sections

variable {v v' : Value}

theorem LoggingSettings.check_congr (h : v.AgreesOn ({} : LoggingSettings).toRecord.names v') :
    check v' = check v :=
  Checked.model_congr (fun m m' hm => by
    rw [Checked.field_congr (hm "level" (by decide))]) h

theorem TemplateSettings.check_congr (h : v.AgreesOn ({} : TemplateSettings).toRecord.names v') :
    check v' = check v :=
  Checked.model_congr (fun m m' hm => by
    rw [Checked.field_congr (hm "dir" (by decide)),
      Checked.field_congr (hm "theme_json" (by decide))]) h

theorem ThemeDefaults.check_congr (h : v.AgreesOn ({} : ThemeDefaults).toRecord.names v') :
    check v' = check v :=
  Checked.model_congr (fun m m' hm => by
    rw [Checked.field_congr (hm "default_dark" (by decide)),
      Checked.field_congr (hm "replacement" (by decide)),
      Checked.field_congr (hm "max_name_length" (by decide))]) h

end Sections

/-! ## Settings -/

theorem Value.checkText_text (t : Text) : checkText (.text t) = .valid t := rfl

theorem Value.checkFlag_bool (b : Bool) : checkFlag (.bool b) = .valid b := rfl

theorem LoggingSettings.check_toValue (s : LoggingSettings) :
    check s.toRecord.toValue = .valid s := by
  change Checked.map mk (Checked.field s.toRecord.entries _ _ _) = _
  rw [Checked.field_entries rfl (Value.checkText_text s.level)]
  rfl

theorem TemplateSettings.check_toValue (s : TemplateSettings) :
    check s.toRecord.toValue = .valid s := by
  have hdirectory : Checked.optional Value.checkText (Value.ofText? s.directory) =
      .valid s.directory := by
    cases s.directory <;> rfl
  change Checked.ap (Checked.map mk (Checked.field s.toRecord.entries _ _ _))
    (Checked.field s.toRecord.entries _ _ _) = _
  rw [Checked.field_entries rfl hdirectory,
    Checked.field_entries rfl (Value.checkText_text s.themeTemplate)]
  rfl

theorem ThemeDefaults.check_toValue {d : ThemeDefaults} (hd : d.IsValid) :
    check d.toRecord.toValue = .valid d := by
  have hreplacement : checkReplacement (.text d.replacement) = .valid d.replacement :=
    Checked.ensure_eq_valid_iff.mpr ⟨rfl, decide_eq_true hd.replacement_legal⟩
  have hlength : checkLength (Value.ofInt? d.maxNameLength) = .valid d.maxNameLength := by
    refine Checked.ensure_eq_valid_iff.mpr ?_
    cases hmax : d.maxNameLength with
    | none => exact ⟨rfl, rfl⟩
    | some n => exact ⟨rfl, decide_eq_true (hd.length_pos n hmax)⟩
  change Checked.ap (Checked.ap (Checked.map mk (Checked.field d.toRecord.entries _ _ _))
    (Checked.field d.toRecord.entries _ _ _)) (Checked.field d.toRecord.entries _ _ _) = _
  rw [Checked.field_entries rfl (Value.checkFlag_bool d.dark),
    Checked.field_entries rfl hreplacement, Checked.field_entries rfl hlength]
  rfl

namespace Settings

open Value (Mapping)

/-- **Settings that obey the rules pass when they are written as a value.** -/
theorem check_toValue {s : Settings} (hs : s.themes.IsValid) : check s.toValue = .valid s := by
  change Checked.ap (Checked.ap (Checked.map mk (Checked.field s.toRecord.entries _ _ _))
    (Checked.field s.toRecord.entries _ _ _)) (Checked.field s.toRecord.entries _ _ _) = _
  rw [Checked.field_entries rfl s.logging.check_toValue,
    Checked.field_entries rfl s.templates.check_toValue,
    Checked.field_entries rfl (ThemeDefaults.check_toValue hs)]
  rfl

/-- The declared fields of each section. -/
def sections : List (Text × List Text) :=
  [("logging", ({} : LoggingSettings).toRecord.names),
    ("templates", ({} : TemplateSettings).toRecord.names),
    ("themes", ({} : ThemeDefaults).toRecord.names)]

/-- The keys that are declared in the whole, or in a section. -/
def declaredAt : Option Text → List Text
  | none => sections.map Prod.fst
  | some name => (sections.lookup name).getD []

/-- A value that is the same, or a mapping that has the same sections, of which each agrees on its
declared fields. -/
inductive Agree : Value → Value → Prop
  | refl (v : Value) : Agree v v
  | mapping {m m' : Mapping}
    (h : ∀ s ∈ sections, Option.Rel (Value.AgreesOn s.2) (m.getText? s.1) (m'.getText? s.1)) :
    Agree (.mapping m) (.mapping m')

/-- **What agrees on the declared fields is checked alike**: it gives the same settings, or has the
same problems. -/
theorem check_congr {v v' : Value} (h : Agree v v') : check v' = check v := by
  cases h with
  | refl => rfl
  | mapping h =>
    have hlogging := h _ (List.mem_cons_self)
    have htemplates := h _ (List.mem_cons_of_mem _ List.mem_cons_self)
    have hthemes := h _ (List.mem_cons_of_mem _ (List.mem_cons_of_mem _ List.mem_cons_self))
    unfold check
    simp only [Checked.model]
    rw [Checked.field_congr_of_rel (fun _ _ => LoggingSettings.check_congr) hlogging,
      Checked.field_congr_of_rel (fun _ _ => TemplateSettings.check_congr) htemplates,
      Checked.field_congr_of_rel (fun _ _ => ThemeDefaults.check_congr) hthemes]

/-! ## Edits -/

/-- An entry that is set or removed: one of the whole, or one of the mapping at a key. -/
structure Edit where
  sectionName : Option Text
  key : Value
  change : Option Value

namespace Edit

/-- The value after an edit; there is nothing to edit in what is no mapping. -/
def apply (e : Edit) : Value → Value
  | .mapping m =>
    match e.sectionName with
    | none => .mapping (Mapping.edit e.key e.change m)
    | some name =>
      match Mapping.getText? m name with
      | some (.mapping entries) =>
        .mapping (Mapping.put (.text name) (.mapping (Mapping.edit e.key e.change entries)) m)
      | _ => .mapping m
  | v => v

/-- The entry is not one that is declared where it stands. -/
def IsUndeclared (e : Edit) : Prop := ∀ k ∈ declaredAt e.sectionName, e.key ≠ .text k

instance (e : Edit) : Decidable e.IsUndeclared := inferInstanceAs (Decidable (∀ _ ∈ _, _))

/-- The values after several edits. -/
def applyAll (edits : List Edit) (data : Value) : Value := edits.foldl (fun v e => e.apply v) data

end Edit

/-- An edit of an undeclared entry leaves all that is declared. -/
theorem agree_apply {e : Edit} (he : e.IsUndeclared) (data : Value) :
    Agree data (e.apply data) := by
  obtain ⟨sectionName, key, change⟩ := e
  cases data with
  | mapping m =>
    cases sectionName with
    | none =>
      refine .mapping fun s hs => ?_
      rw [Mapping.getText?_edit_of_ne (he s.1 (List.mem_map_of_mem hs))]
      exact Value.rel_agreesOn_self _ _
    | some name =>
      simp only [Edit.apply]
      split
      · rename_i entries hentries
        refine .mapping fun s hs => ?_
        rw [Mapping.getText?_put]
        split
        · rename_i hname
          subst hname
          have hdeclared : ∀ s ∈ sections, declaredAt (some s.1) = s.2 := by decide
          rw [hentries]
          refine .some (.mapping fun k hk => Mapping.getText?_edit_of_ne (he k ?_) _ _)
          rwa [hdeclared s hs]
        · exact Value.rel_agreesOn_self _ _
      -- what is no mapping has no entries to edit
      · exact .refl _
  | _ => exact .refl _

theorem check_applyAll {edits : List Edit} (h : ∀ e ∈ edits, e.IsUndeclared) (data : Value) :
    check (Edit.applyAll edits data) = check data := by
  induction edits generalizing data with
  | nil => rfl
  | cons e edits ih =>
    have hlater := ih (fun e' he' => h e' (List.mem_cons_of_mem e he')) (e.apply data)
    exact hlater.trans (check_congr (agree_apply (h e List.mem_cons_self) data))

end Settings

/-- **Checking settings is a projection onto those that obey the rules.** What passes obeys them
and passes again as the same settings, and edits of undeclared entries change neither the settings
nor the problems. -/
theorem settings_projection (data : Value) :
    (∀ s, Settings.check data = .valid s →
      FileName.IsLegal s.themes.replacement ∧ (∀ n ∈ s.themes.maxNameLength, 1 ≤ n) ∧
      Settings.check s.toValue = .valid s) ∧
    ∀ edits : List Settings.Edit, (∀ e ∈ edits, e.IsUndeclared) →
      Settings.check (Settings.Edit.applyAll edits data) = Settings.check data := by
  refine ⟨fun s hs => ?_, fun edits h => Settings.check_applyAll h data⟩
  have hvalid := Settings.isValid_of_check hs
  exact ⟨hvalid.replacement_legal, hvalid.length_pos, Settings.check_toValue hvalid⟩

/-- A flag and a bound that are spelled in other ways, among entries that are not declared. -/
theorem settings_projection_spelled :
    let themes : Value.Mapping := [(.text "default_dark", .text "oFF"), (.text "colour", .int 7),
      (.text "max_name_length", .text " +1_2.0 ")]
    let data : Value := .mapping [(.text "x", .null), (.text "themes", .mapping themes)]
    let s : Settings := ⟨{}, {}, ⟨false, [], some 12⟩⟩
    let edits : List Settings.Edit := [⟨none, .text "x", none⟩, ⟨none, .int 1, some .null⟩,
      ⟨some "themes", .text "colour", some (.text "/")⟩, ⟨some "themes", .text "level", some .null⟩]
    Settings.check data = .valid s ∧ (∀ e ∈ edits, e.IsUndeclared) ∧
    Settings.check s.toValue = .valid s ∧
    Settings.check (Settings.Edit.applyAll edits data) = .valid s := by
  intro themes data s edits
  have hthemes : ThemeDefaults.check (.mapping themes) = .valid ⟨false, [], some 12⟩ := by
    simp only [themes, ThemeDefaults.check, Checked.model, Checked.field,
      Value.Mapping.getText?_cons]
    rfl
  have hs : Settings.check data = .valid s := by
    refine Settings.check_eq_valid_iff.mpr ⟨⟨[], ?_, rfl⟩, ⟨[], ?_, rfl⟩, themes, ?_, hthemes⟩ <;>
      simp only [Value.Mapping.entriesAt?, Value.Mapping.getText?_cons] <;> rfl
  have hedits : ∀ e ∈ edits, e.IsUndeclared := by decide +kernel
  obtain ⟨hsound, hedit⟩ := settings_projection data
  exact ⟨hs, hedits, (hsound s hs).2.2, (hedit edits hedits).trans hs⟩

end ThemeForge

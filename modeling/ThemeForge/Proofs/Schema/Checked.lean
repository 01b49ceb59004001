import ThemeForge.Proofs.Value.Mapping
import ThemeForge.Settings.Basic

/-!
# What a passed check says

Each way of putting checks together passes exactly if its parts do.

* `Checked.map_eq_valid_iff`, `Checked.ap_eq_valid_iff`, `Checked.ensure_eq_valid_iff`,
  `Checked.model_eq_valid_iff`, `Checked.field_eq_valid`: the combinators;
* `Checked.field_eq_valid_iff_of_section`, `Settings.check_eq_valid_iff`: sections, of which those
  that are left out count as empty;
* **`ThemeDefaults.isValid_of_check`**, `Settings.isValid_of_check`: checked defaults obey their
  rules.
-/

namespace ThemeForge

namespace Checked

variable {α β : Type}

theorem map_eq_valid_iff {f : α → β} {x : Checked α} {b : β} :
    x.map f = .valid b ↔ ∃ a, x = .valid a ∧ f a = b := by
  cases x <;> simp [map]

theorem ap_eq_valid_iff {x : Checked (α → β)} {y : Checked α} {b : β} :
    x.ap y = .valid b ↔ ∃ f a, x = .valid f ∧ y = .valid a ∧ f a = b := by
  cases x <;> cases y <;> simp [ap, map]

theorem under_eq_valid_iff {key : Text} {x : Checked α} {a : α} :
    x.under key = .valid a ↔ x = .valid a := by
  cases x <;> simp [under]

theorem ensure_eq_valid_iff {rule : α → Bool} {statement : Text} {x : Checked α} {a : α} :
    x.ensure rule statement = .valid a ↔ x = .valid a ∧ rule a = true := by
  cases x with
  | invalid ps => simp [ensure, bind]
  | valid b =>
    by_cases hb : rule b = true <;> simp [ensure, bind, hb, fail]
    · rintro rfl
      exact hb
    · rintro rfl
      exact Bool.eq_false_iff.mpr hb

theorem model_eq_valid_iff {title : Text} {fields : Value.Mapping → Checked α} {v : Value} {a : α} :
    model title fields v = .valid a ↔ ∃ m, v = .mapping m ∧ fields m = .valid a := by
  cases v <;> simp [model, fail]

/-- A field that passes holds its default or checked data. -/
theorem field_eq_valid {m : Value.Mapping} {key : Text} {fallback : α} {check : Value → Checked α}
    {a : α} (h : field m key fallback check = .valid a) :
    a = fallback ∨ ∃ v, check v = .valid a := by
  rw [field] at h
  split at h
  · exact .inr ⟨_, under_eq_valid_iff.mp h⟩
  · exact .inl (valid.inj h).symm

/-- Fields are checked alike where the same is found. -/
theorem field_congr {m m' : Value.Mapping} {key : Text} (h : m'.getText? key = m.getText? key)
    (fallback : α) (check : Value → Checked α) :
    field m' key fallback check = field m key fallback check := by
  unfold field
  rw [h]

/-- A section may be left out if it may be empty, and then is the same. -/
theorem field_eq_valid_iff_of_section {m : Value.Mapping} {key : Text} {fallback : α}
    {title : Text} {fields : Value.Mapping → Checked α} {a : α}
    (hnil : fields [] = .valid fallback) :
    field m key fallback (model title fields) = .valid a ↔
      ∃ entries, m.entriesAt? key = some entries ∧ fields entries = .valid a := by
  unfold field Value.Mapping.entriesAt?
  cases m.getText? key with
  | none => simp [hnil]
  | some v => cases v <;> simp [under_eq_valid_iff, model, fail]

end Checked

/-- **Checked defaults obey the two rules.** -/
theorem ThemeDefaults.isValid_of_check {v : Value} {d : ThemeDefaults} (h : check v = .valid d) :
    d.IsValid := by
  obtain ⟨m, -, h⟩ := Checked.model_eq_valid_iff.mp h
  obtain ⟨f, n, hf, hn, rfl⟩ := Checked.ap_eq_valid_iff.mp h
  obtain ⟨g, r, hg, hr, rfl⟩ := Checked.ap_eq_valid_iff.mp hf
  obtain ⟨b, -, rfl⟩ := Checked.map_eq_valid_iff.mp hg
  constructor
  · rcases Checked.field_eq_valid hr with rfl | ⟨v, hv⟩
    · exact fun c hc => absurd hc List.not_mem_nil
    · exact of_decide_eq_true (Checked.ensure_eq_valid_iff.mp hv).2
  · intro k hk
    change n = some k at hk
    rcases Checked.field_eq_valid hn with rfl | ⟨v, hv⟩
    · exact absurd hk (Option.not_mem_none k)
    · have hall := (Checked.ensure_eq_valid_iff.mp hv).2
      rw [hk] at hall
      exact of_decide_eq_true hall

/-- Settings pass if their sections do; one that is left out counts as empty. -/
theorem Settings.check_eq_valid_iff {m : Value.Mapping} {s : Settings} :
    check (.mapping m) = .valid s ↔
      (∃ entries, m.entriesAt? "logging" = some entries ∧
        LoggingSettings.check (.mapping entries) = .valid s.logging) ∧
      (∃ entries, m.entriesAt? "templates" = some entries ∧
        TemplateSettings.check (.mapping entries) = .valid s.templates) ∧
      ∃ entries, m.entriesAt? "themes" = some entries ∧
        ThemeDefaults.check (.mapping entries) = .valid s.themes := by
  have hlogging : ∀ l, Checked.field m "logging" {} LoggingSettings.check = .valid l ↔ _ := fun l =>
    Checked.field_eq_valid_iff_of_section rfl
  have htemplates : ∀ t, Checked.field m "templates" {} TemplateSettings.check = .valid t ↔ _ :=
    fun t => Checked.field_eq_valid_iff_of_section rfl
  have hthemes : ∀ t, Checked.field m "themes" {} ThemeDefaults.check = .valid t ↔ _ := fun t =>
    Checked.field_eq_valid_iff_of_section rfl
  constructor
  · intro h
    obtain ⟨f, t, hf, ht, rfl⟩ := Checked.ap_eq_valid_iff.mp h
    obtain ⟨g, u, hg, hu, rfl⟩ := Checked.ap_eq_valid_iff.mp hf
    obtain ⟨l, hl, rfl⟩ := Checked.map_eq_valid_iff.mp hg
    exact ⟨(hlogging l).mp hl, (htemplates u).mp hu, (hthemes t).mp ht⟩
  · rintro ⟨hl, hu, ht⟩
    refine Checked.ap_eq_valid_iff.mpr ⟨.mk s.logging s.templates, s.themes, ?_,
      (hthemes _).mpr ht, rfl⟩
    refine Checked.ap_eq_valid_iff.mpr ⟨.mk s.logging, s.templates, ?_,
      (htemplates _).mpr hu, rfl⟩
    exact Checked.map_eq_valid_iff.mpr ⟨s.logging, (hlogging _).mpr hl, rfl⟩

theorem Settings.isValid_of_check {v : Value} {s : Settings} (h : check v = .valid s) :
    s.themes.IsValid := by
  obtain ⟨m, rfl, -⟩ := Checked.model_eq_valid_iff.mp h
  obtain ⟨-, -, entries, -, hthemes⟩ := check_eq_valid_iff.mp h
  exact ThemeDefaults.isValid_of_check hthemes

end ThemeForge

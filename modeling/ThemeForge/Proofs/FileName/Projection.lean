import ThemeForge.Proofs.FileName.Stem
import ThemeForge.Proofs.Schema.Checked
import ThemeForge.Proofs.Value.Mapping
import ThemeForge.Theme.Generator

/-!
# Stems are left alone

A text that is fit to be a stem passes through every step unchanged, and whatever comes out of the
steps is fit to be a stem. So making a stem is a projection, and it does not matter that another
replacement is used the second time.

* `FileName.IsFinished`: fit to be a stem;
* `FileName.isFinished_cut`, `FileName.IsFinished.cut_eq_self`: the two halves;
* `FileName.sanitize?_eq_self_iff`: the texts that are left alone;
* **`stem_projection`**: the same for checked defaults.
-/

namespace ThemeForge

namespace FileName

/-- **Fit to be a stem**: safe, short enough to leave room for the extension, and no device. -/
structure IsFinished (t : Text) : Prop where
  safe : IsSafe t
  fits : t.bytes.length ≤ maxStemBytes
  device : ¬ IsReserved t

section Steps

variable {r t : Text}

/-- The last two steps finish what the others have made safe. -/
theorem isFinished_cut (ht : IsSafe t) : IsFinished (cut maxStemBytes (guarded t)) where
  safe := ht.guarded.cut (by decide)
  fits := length_bytes_cut_le maxStemBytes (guarded t)
  device := ht.guarded.not_isReserved_cut (not_isReserved_guarded t) (by decide)

theorem IsSafe.cleaned_eq_self (ht : IsSafe t) (r : Replacement) : cleaned r t = t := by
  rw [cleaned, Replacement.apply_eq_self r ht.legal, Text.collapse_eq_self ht.spaced]
  exact Text.trimOf_eq_self ht.head ht.last

theorem IsFinished.cut_eq_self (ht : IsFinished t) (r : Replacement) :
    cut maxStemBytes (guarded (orFallback (cleaned r t))) = t := by
  have hguarded : guarded t = t := if_neg ht.device
  have hfallback : orFallback t = t := if_neg ht.safe.ne_nil
  rw [ht.safe.cleaned_eq_self, hfallback, hguarded, cut, Text.fit_eq_self ht.fits]
  exact Text.trimEndOf_eq_self ht.safe.last

theorem exists_sanitize? (hr : IsLegal r) (raw : Text) :
    ∃ stem, sanitize? raw r = .ok stem ∧ IsFinished stem :=
  ⟨_, sanitize?_eq hr raw, isFinished_cut (isSafe_orFallback hr raw)⟩

/-- Exactly the texts that are fit to be stems are left alone. -/
theorem sanitize?_eq_self_iff (hr : IsLegal r) : sanitize? t r = .ok t ↔ IsFinished t := by
  constructor
  · intro h
    obtain ⟨stem, hstem, hfinished⟩ := exists_sanitize? hr t
    cases h.symm.trans hstem
    exact hfinished
  · intro h
    rw [sanitize?_eq hr, h.cut_eq_self]

end Steps

end FileName

/-- **Making a stem is a projection onto the texts that are fit to be stems**: every name has a
stem, which any checked replacement leaves alone, and nothing else is left alone. -/
theorem stem_projection {v₁ v₂ : Value} {d₁ d₂ : ThemeDefaults}
    (h₁ : ThemeDefaults.check v₁ = .valid d₁) (h₂ : ThemeDefaults.check v₂ = .valid d₂)
    (name : Text) :
    (∃ stem, d₁.stem? name = .ok stem ∧ d₂.stem? stem = .ok stem) ∧
    (d₁.stem? name = .ok name ↔
      name ≠ [] ∧ FileName.IsLegal name ∧ name.IsSpaced ∧
      (∀ c ∈ name.head?, c ≠ ' ' ∧ c ≠ '.') ∧ (∀ c ∈ name.getLast?, c ≠ ' ' ∧ c ≠ '.') ∧
      name.bytes.length ≤ 244 ∧ ¬ FileName.IsReserved name) := by
  have hr₁ := (ThemeDefaults.isValid_of_check h₁).replacement_legal
  have hr₂ := (ThemeDefaults.isValid_of_check h₂).replacement_legal
  constructor
  · obtain ⟨stem, hstem, hfinished⟩ := FileName.exists_sanitize? hr₁ name
    exact ⟨stem, hstem, (FileName.sanitize?_eq_self_iff hr₂).mpr hfinished⟩
  · have hedge (c : Code) : FileName.isEdge c = false ↔ c ≠ ' ' ∧ c ≠ '.' := by
      rw [← not_or, ← FileName.isEdge_iff, Bool.not_eq_true]
    simp only [← hedge]
    refine (FileName.sanitize?_eq_self_iff hr₁).trans ⟨fun h => ?_, ?_⟩
    · exact ⟨h.safe.ne_nil, h.safe.legal, h.safe.spaced, h.safe.head, h.safe.last, h.fits,
        h.device⟩
    · rintro ⟨hne, hlegal, hspaced, hhead, hlast, hfits, hdevice⟩
      exact ⟨⟨hne, hlegal, hspaced, hhead, hlast⟩, hfits, hdevice⟩

/-- A device's name between blanks and dots, under two replacements that do not agree. -/
theorem stem_projection_con :
    let v₁ : Value := .mapping [(.text "replacement", .text " -")]
    let v₂ : Value := .mapping [(.text "replacement", .text "._")]
    let d₁ : ThemeDefaults := ⟨true, " -", none⟩
    let d₂ : ThemeDefaults := ⟨true, "._", none⟩
    ThemeDefaults.check v₁ = .valid d₁ ∧ ThemeDefaults.check v₂ = .valid d₂ ∧
    (∃ stem, d₁.stem? " con . /.. " = .ok stem ∧ d₂.stem? stem = .ok stem) ∧
    d₁.stem? " con . /.. " ≠ .ok " con . /.. " := by
  intro v₁ v₂ d₁ d₂
  have h₁ : ThemeDefaults.check v₁ = .valid d₁ := by
    simp only [v₁, ThemeDefaults.check, Checked.model, Checked.field, Value.Mapping.getText?_cons]
    rfl
  have h₂ : ThemeDefaults.check v₂ = .valid d₂ := by
    simp only [v₂, ThemeDefaults.check, Checked.model, Checked.field, Value.Mapping.getText?_cons]
    rfl
  obtain ⟨hstem, halone⟩ := stem_projection h₁ h₂ " con . /.. "
  refine ⟨h₁, h₂, hstem, fun h => ?_⟩
  obtain ⟨-, -, -, hhead, -⟩ := halone.mp h
  exact (hhead ' ' rfl).1 rfl

end ThemeForge

import ThemeForge.Proofs.Theme.Generator

/-!
# Padding

White space around a name is cut in two ways: the verdict is about the trimmed name, and the stem
is trimmed after its blanks have been collapsed, of dots as well. Whatever the padding merges with,
neither the verdict nor the file name depends on it.

* `FileName.IsPadding`, **`FileName.cleaned_padded`**: the first steps forget the padding;
* `ThemeDefaults.judge_padded`, `ThemeDefaults.generate?_padded`: so do the verdict and the file
  name;
* **`generate_padded`**: what is generated for a padded name.
-/

namespace ThemeForge

namespace FileName

open Text

/-- Blanks and dots, none of which is illegal in file names. -/
def IsPadding (t : Text) : Prop := ∀ c ∈ t, (c.isBlank = true ∨ c = '.') ∧ ¬ c.IsIllegal

theorem IsPadding.of_blank {t : Text} (ht : ∀ c ∈ t, c.isBlank = true ∧ ¬ c.IsIllegal) :
    IsPadding t := fun c hc => ⟨.inl (ht c hc).1, (ht c hc).2⟩

/-- After collapsing, the padding consists of spaces and dots. -/
theorem IsPadding.isEdge {t : Text} (ht : IsPadding t) (inRun : Bool) :
    ∀ c ∈ collapseFrom inRun t, isEdge c = true := by
  intro c hc
  rw [isEdge_iff]
  rcases eq_space_or_mem_of_mem_collapseFrom hc with hspace | hmem
  · exact .inl hspace
  · exact (ht c hmem).1.imp_left ((isSpaced_collapseFrom inRun t).1.eq_space c hc)

/-- A space at the start makes no difference if spaces are trimmed there. -/
theorem trimStartOf_collapseFrom (inRun : Bool) (t : Text) :
    trimStartOf isEdge (collapseFrom inRun t) = trimStartOf isEdge t.collapse := by
  cases inRun with
  | false => rfl
  | true =>
    cases t with
    | nil => rfl
    | cons c t =>
      rw [collapse, collapseFrom, collapseFrom]
      split
      · exact (List.dropWhile_cons_of_pos (by decide)).symm
      · rfl

theorem trimOf_collapse_padded {p t q : Text} (hp : IsPadding p) (hq : IsPadding q) :
    trimOf isEdge (p ++ t ++ q).collapse = trimOf isEdge t.collapse := by
  -- blanks at the end of the padding swallow those after them, which is no more than one space
  calc
    trimOf isEdge (p ++ t ++ q).collapse
      = trimOf isEdge (collapseFrom (endsInRun false p) (t ++ q)) := by
        rw [List.append_assoc, collapse, collapseFrom_append]
        exact trimOf_append_left (hp.isEdge false) _
    _ = trimOf isEdge (t ++ q).collapse := by
        rw [trimOf, trimOf, trimStartOf_collapseFrom]
    _ = trimOf isEdge t.collapse := by
        rw [collapse, collapseFrom_append]
        exact trimOf_append_right _ (hq.isEdge _)

/-- **The first steps towards a stem forget the padding**, whatever the replacement. -/
theorem cleaned_padded (r : Replacement) {p q : Text} (hp : IsPadding p) (hq : IsPadding q)
    (name : Text) : cleaned r (p ++ name ++ q) = cleaned r name := by
  have happly : r.apply (p ++ name ++ q) = p ++ r.apply name ++ q := by
    rw [Replacement.apply_append, Replacement.apply_append,
      Replacement.apply_eq_self r fun c hc => (hp c hc).2,
      Replacement.apply_eq_self r fun c hc => (hq c hc).2]
  rw [cleaned, cleaned, happly, trimOf_collapse_padded hp hq]

theorem sanitize?_padded {p q : Text} (hp : IsPadding p) (hq : IsPadding q) (name written : Text) :
    sanitize? (p ++ name ++ q) written = sanitize? name written := by
  rw [sanitize?, sanitize?]
  simp only [stem?, cleaned_padded _ hp hq]

end FileName

namespace ThemeDefaults

variable (d : ThemeDefaults) {p q : Text}

/-- The verdict is about the trimmed name. -/
theorem judge_padded (hp : ∀ c ∈ p, c.isBlank = true) (hq : ∀ c ∈ q, c.isBlank = true)
    (name : Text) : d.judge (p ++ name ++ q) = d.judge name := by
  have htrim : Text.trim (p ++ name ++ q) = name.trim := Text.trimOf_padded hp name hq
  unfold judge Theme.judge
  rw [htrim]

theorem fileName?_padded (hp : FileName.IsPadding p) (hq : FileName.IsPadding q) (name : Text) :
    d.fileName? (p ++ name ++ q) = d.fileName? name := by
  unfold fileName? FileName.ofName?
  rw [FileName.sanitize?_padded hp hq]

/-- A name is refused with the same verdict, or has the same file name. -/
theorem generate?_padded {d : ThemeDefaults} (hd : d.IsValid)
    (hp : ∀ c ∈ p, c.isBlank = true ∧ ¬ c.IsIllegal)
    (hq : ∀ c ∈ q, c.isBlank = true ∧ ¬ c.IsIllegal) (name : Text) (isDark : Bool) :
    (∃ verdict, d.generate? ⟨p ++ name ++ q, isDark⟩ = .error (.rejected verdict) ∧
      d.generate? ⟨name, isDark⟩ = .error (.rejected verdict)) ∨
    ∃ fileName,
      d.generate? ⟨p ++ name ++ q, isDark⟩ =
        .ok ⟨fileName, Theme.properties (p ++ name ++ q) isDark⟩ ∧
      d.generate? ⟨name, isDark⟩ = .ok ⟨fileName, Theme.properties name isDark⟩ := by
  have hjudge := d.judge_padded (fun c hc => (hp c hc).1) (fun c hc => (hq c hc).1) name
  have hrefuses : d.Refuses (p ++ name ++ q) ↔ d.Refuses name := by
    rw [← not_iff_not, ← d.isOk_judge, ← d.isOk_judge, hjudge]
  by_cases hr : d.Refuses name
  · refine .inl ⟨d.judge name, ?_, generate?_of_refuses (r := ⟨name, isDark⟩) hr⟩
    rw [generate?_of_refuses (r := ⟨p ++ name ++ q, isDark⟩) (hrefuses.mpr hr), hjudge]
  · obtain ⟨fileName, hname, -⟩ := exists_fileName? hd name
    have hpadded : d.fileName? (p ++ name ++ q) = .ok fileName := by
      rw [d.fileName?_padded (.of_blank hp) (.of_blank hq), hname]
    exact .inr ⟨fileName,
      generate?_of_not_refuses (r := ⟨p ++ name ++ q, isDark⟩) (mt hrefuses.mp hr) hpadded,
      generate?_of_not_refuses (r := ⟨name, isDark⟩) hr hname⟩

end ThemeDefaults

/-- **Padding around a name makes no difference.** With legal white space around it, a name is
refused with the same verdict or has the same file name, and the properties hold each name as it
was typed. The stem is the same with dots around it as well. -/
theorem generate_padded {v : Value} {d : ThemeDefaults} (hd : ThemeDefaults.check v = .valid d)
    (p name q : Text) :
    ((∀ c ∈ p ++ q, c.isBlank = true ∧ ¬ c.IsIllegal) → ∀ (isDark : Bool) (w w' : World),
      let padded := ((Run.generate d ⟨p ++ name ++ q, isDark⟩).result w).1
      let plain := ((Run.generate d ⟨name, isDark⟩).result w').1
      (∃ verdict, padded = .error (.rejected verdict) ∧ plain = .error (.rejected verdict)) ∨
      ∃ fileName, padded = .ok ⟨fileName, Theme.properties (p ++ name ++ q) isDark⟩ ∧
        plain = .ok ⟨fileName, Theme.properties name isDark⟩) ∧
    (FileName.IsPadding (p ++ q) → ∀ r, FileName.IsLegal r →
      ∃ stem, FileName.sanitize? (p ++ name ++ q) r = .ok stem ∧
        FileName.sanitize? name r = .ok stem) := by
  constructor
  · intro h isDark w w'
    obtain ⟨hp, hq⟩ := List.forall_mem_append.mp h
    simp only [Run.result_generate_fst]
    rcases ThemeDefaults.generate?_padded (ThemeDefaults.isValid_of_check hd) hp hq name isDark with
      ⟨verdict, hpadded, hplain⟩ | ⟨fileName, hpadded, hplain⟩
    · rw [hpadded, hplain]
      exact .inl ⟨verdict, rfl, rfl⟩
    · rw [hpadded, hplain]
      exact .inr ⟨fileName, rfl, rfl⟩
  · intro h r hr
    obtain ⟨hp, hq⟩ := List.forall_mem_append.mp h
    obtain ⟨stem, hstem⟩ : ∃ stem, FileName.sanitize? name r = .ok stem :=
      ⟨_, FileName.sanitize?_eq hr name⟩
    exact ⟨stem, (FileName.sanitize?_padded hp hq name r).trans hstem, hstem⟩

/-- A device's name between spaces of three kinds, which merge with what replaces the slash. -/
theorem generate_padded_con :
    let d : ThemeDefaults := ⟨true, " .", some 5⟩
    let p : Text := " \u2003"
    let name : Text := "/con"
    let q : Text := "\u00a0 "
    ThemeDefaults.check (.mapping [(.text "replacement", .text " ."),
      (.text "max_name_length", .int 5)]) = .valid d ∧
    (∀ c ∈ p ++ q, c.isBlank = true ∧ ¬ c.IsIllegal) ∧ FileName.IsLegal " ." ∧
    ((Run.generate d ⟨p ++ name ++ q, true⟩).result {}).1 =
      .ok ⟨"_con.theme.json", Theme.properties (p ++ name ++ q) true⟩ ∧
    ∃ stem, FileName.sanitize? (p ++ name ++ q) " ." = .ok stem ∧
      FileName.sanitize? name " ." = .ok stem := by
  intro d p name q
  have hd : ThemeDefaults.check (.mapping [(.text "replacement", .text " ."),
      (.text "max_name_length", .int 5)]) = .valid ⟨true, " .", some 5⟩ := by
    simp only [ThemeDefaults.check, Checked.model, Checked.field, Value.Mapping.getText?_cons]
    rfl
  have hpad : ∀ c ∈ p ++ q, c.isBlank = true ∧ ¬ c.IsIllegal := by decide
  have hlegal : FileName.IsLegal " ." := by decide
  have hname : ((Run.generate d ⟨name, true⟩).result {}).1 =
      .ok ⟨"_con.theme.json", Theme.properties name true⟩ := by
    decide
  obtain ⟨hgenerate, hstem⟩ := generate_padded hd p name q
  refine ⟨hd, hpad, hlegal, ?_, hstem (.of_blank hpad) _ hlegal⟩
  rcases hgenerate hpad true {} {} with ⟨verdict, -, hplain⟩ | ⟨fileName, hpadded, hplain⟩
  · cases hname.symm.trans hplain
  · cases hname.symm.trans hplain
    exact hpadded

end ThemeForge

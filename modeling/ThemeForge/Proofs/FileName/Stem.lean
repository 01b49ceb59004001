import ThemeForge.Proofs.Except
import ThemeForge.Proofs.FileName.Replacement
import ThemeForge.Proofs.Text.Blank
import ThemeForge.Proofs.Text.Utf8

/-!
# Safe stems

Whatever the name, the stem made of it can be part of a file name on every system.

* `FileName.IsSafe`: legal, singly spaced, and with neither a space nor a dot at its ends;
* `FileName.IsSafe.guarded`, `FileName.IsSafe.cut`: the steps that make a stem safe keep it so;
* `FileName.not_isReserved_guarded`, **`FileName.IsSafe.not_isReserved_cut`**: a stem never means a
  device, not even after it has been cut;
* **`FileName.stem?_eq`**, **`FileName.exists_ofName?`**: every name has a stem and a file name
  under every legal replacement.
-/

namespace ThemeForge

/-! ## Upper case never shortens -/

theorem Code.upper_ne_nil (c : Code) : c.upper ≠ [] := by
  have htable : ∀ e ∈ CaseTable.upperSpecial, e.2 ≠ [] := by decide
  rw [upper]
  split
  · simp
  · split
    · rename_i image h
      obtain ⟨l₁, l₂, heq, -⟩ := List.lookup_eq_some_iff.mp h
      have := htable (c.val, image) (by rw [heq]; simp)
      simpa using this
    · simp

theorem Text.length_le_length_upper (t : Text) : t.length ≤ t.upper.length := by
  induction t with
  | nil => exact Nat.le_refl _
  | cons c t ih =>
    have := List.length_pos_iff.mpr c.upper_ne_nil
    rw [upper, List.flatMap_cons, List.length_append, List.length_cons]
    rw [upper] at ih
    omega

namespace FileName

theorem IsLegal.isEncodable {t : Text} (ht : IsLegal t) : t.IsEncodable :=
  fun c hc hs => ht c hc (.inr (.inr (.inr hs)))

theorem IsLegal.subset {s t : Text} (ht : IsLegal t) (h : s ⊆ t) : IsLegal s :=
  fun c hc => ht c (h hc)

theorem isEdge_iff {c : Code} : isEdge c = true ↔ c = ' ' ∨ c = '.' := by
  simp [isEdge]

/-- **A safe stem**: legal code points, single spaces, no space or dot at either end. -/
structure IsSafe (t : Text) : Prop where
  ne_nil : t ≠ []
  legal : IsLegal t
  spaced : t.IsSpaced
  head : ∀ c ∈ t.head?, isEdge c = false
  last : ∀ c ∈ t.getLast?, isEdge c = false

/-! ## Devices -/

theorem before_of_notMem {s : Text} (h : Code.ofChar '.' ∉ s) : s.before '.' = s := by
  refine List.takeWhile_eq_self_iff.mpr fun c hc => ?_
  rw [bne_iff_ne]
  rintro rfl
  exact h hc

theorem before_append_of_notMem {s : Text} (t : Text) (h : Code.ofChar '.' ∉ s) :
    (s ++ t).before '.' = s ++ t.before '.' := by
  refine List.takeWhile_append_of_pos fun c hc => ?_
  rw [bne_iff_ne]
  rintro rfl
  exact h hc

theorem before_append_of_mem {s : Text} (t : Text) (h : Code.ofChar '.' ∈ s) :
    (s ++ t).before '.' = s.before '.' := by
  induction s with
  | nil => exact absurd h List.not_mem_nil
  | cons c s ih =>
    rw [Text.before, Text.before, List.cons_append, List.takeWhile_cons, List.takeWhile_cons]
    split
    · rename_i hc
      rw [List.mem_cons] at h
      exact congrArg (c :: ·) (ih (h.resolve_left fun h => by simp [h] at hc))
    · rfl

/-- **A file name means a device exactly if its stem does.** -/
theorem deviceKey_append_extension (stem : Text) :
    deviceKey (stem ++ extension) = deviceKey stem := by
  have hnil : extension.before '.' = [] := by decide
  by_cases h : Code.ofChar '.' ∈ stem
  · rw [deviceKey, before_append_of_mem _ h, deviceKey]
  · rw [deviceKey, before_append_of_notMem _ h, hnil, List.append_nil, deviceKey,
      before_of_notMem h]

/-- Spaces and dots at the end, one of them a dot, and what follows them do not matter to
devices. -/
theorem deviceKey_append_of_edges {s tail : Text} (rest : Text)
    (htail : ∀ c ∈ tail, isEdge c = true) (hdot : Code.ofChar '.' ∈ s ++ tail) :
    deviceKey (s ++ tail ++ rest) = deviceKey s := by
  rw [deviceKey, before_append_of_mem _ hdot, deviceKey]
  by_cases h : Code.ofChar '.' ∈ s
  · rw [before_append_of_mem _ h]
  · rw [before_append_of_notMem _ h, before_of_notMem h, Text.trimEndOf_append]
    intro c hc
    rcases isEdge_iff.mp (htail c ((List.takeWhile_sublist _).mem hc)) with rfl | rfl
    · rfl
    · exact absurd (List.mem_takeWhile_imp hc) (by decide)

theorem length_le_of_isReserved {t : Text} (h : IsReserved t) : (deviceKey t).length ≤ 4 := by
  have hdevices : ∀ d ∈ devices, d.length ≤ 4 := by decide
  exact hdevices _ h

/-- A long stem without a dot and without a space at its end means no device. -/
theorem not_isReserved_of_length {s : Text} (hdot : Code.ofChar '.' ∉ s)
    (hlast : ∀ c ∈ s.getLast?, isEdge c = false) (h : 4 < s.length) : ¬ IsReserved s := by
  intro hs
  have hkey : deviceKey s = s.upper := by
    rw [deviceKey, before_of_notMem hdot, Text.trimEndOf_eq_self]
    intro c hc
    have := hlast c hc
    simp only [isEdge, Bool.or_eq_false_iff] at this
    exact this.1
  have := length_le_of_isReserved hs
  rw [hkey] at this
  have := s.length_le_length_upper
  omega

theorem not_isReserved_underscore (t : Text) : ¬ IsReserved (Code.ofChar '_' :: t) := by
  have hdevices : ∀ d ∈ devices, d.head? ≠ some (Code.ofChar '_') := by decide
  intro h
  refine hdevices _ h ?_
  rw [deviceKey, Text.before, List.takeWhile_cons_of_pos (by decide),
    Text.trimEndOf_cons (by decide)]
  rfl

/-! ## The steps that make a stem -/

theorem isSafe_fallback : IsSafe fallback where
  ne_nil := by decide
  legal := by decide
  spaced := ⟨by decide, by decide⟩
  head := by decide
  last := by decide

theorem isSafe_cleaned {r : Text} (hr : IsLegal r) {raw : Text}
    (hne : cleaned (Replacement.spelled r) raw ≠ []) :
    IsSafe (cleaned (Replacement.spelled r) raw) where
  ne_nil := hne
  legal := by
    intro c hc
    have hmem := (Text.trimOf_isInfix isEdge _).mem hc
    rcases Text.eq_space_or_mem_of_mem_collapse hmem with rfl | h
    · decide
    · exact Replacement.isLegal_apply hr raw c h
  spaced := (Text.isSpaced_collapse _).of_isInfix (Text.trimOf_isInfix isEdge _)
  head := fun _ => Text.not_of_mem_head?_trimOf
  last := fun _ => Text.not_of_mem_getLast?_trimOf

theorem isSafe_orFallback {r : Text} (hr : IsLegal r) (raw : Text) :
    IsSafe (orFallback (cleaned (Replacement.spelled r) raw)) := by
  rw [orFallback]
  split
  · exact isSafe_fallback
  · exact isSafe_cleaned hr ‹_›

theorem IsSafe.guarded {t : Text} (ht : IsSafe t) : IsSafe (guarded t) := by
  rw [FileName.guarded]
  split
  · refine ⟨List.cons_ne_nil _ _, List.forall_mem_cons.mpr ⟨by decide, ht.legal⟩,
      ht.spaced.cons (fun h => absurd h (by decide)) (fun h => absurd h (by decide)), ?_, ?_⟩
    · rintro c ⟨rfl⟩
      decide
    · rw [List.getLast?_cons_of_ne_nil ht.ne_nil]
      exact ht.last
  · exact ht

theorem not_isReserved_guarded (t : Text) : ¬ IsReserved (guarded t) := by
  rw [guarded]
  split
  · exact not_isReserved_underscore t
  · assumption

/-- A stem cut to a number of bytes, without the spaces and dots that the cut exposes. -/
def cut (limit : Nat) (t : Text) : Text := Text.trimEndOf isEdge (t.fit limit)

theorem cut_isPrefix (limit : Nat) (t : Text) : cut limit t <+: t :=
  (Text.trimEndOf_isPrefix _ _).trans (Text.fit_isPrefix limit t)

theorem length_bytes_cut_le (limit : Nat) (t : Text) : (cut limit t).bytes.length ≤ limit := by
  obtain ⟨tail, htail, -⟩ := Text.exists_trimEndOf_append isEdge (t.fit limit)
  have := Text.length_bytes_fit_le limit t
  rw [← htail, Text.bytes_append, List.length_append] at this
  rw [cut]
  omega

/-- The first code point is never cut, since it fits and is no edge. -/
theorem IsSafe.cut {t : Text} (ht : IsSafe t) {limit : Nat} (hlimit : 4 ≤ limit) :
    IsSafe (cut limit t) := by
  obtain ⟨c, rest, rfl⟩ := List.exists_cons_of_ne_nil ht.ne_nil
  have hc : isEdge c = false := ht.head c rfl
  have hcut : FileName.cut limit (c :: rest) =
      c :: Text.trimEndOf isEdge (Text.fit (limit - c.utf8.length) rest) := by
    have := c.length_utf8_le
    rw [FileName.cut, Text.fit, if_pos (by omega), Text.trimEndOf_cons hc]
  have hsub := cut_isPrefix limit (c :: rest)
  refine ⟨by simp [hcut], ht.legal.subset hsub.subset, ht.spaced.of_isInfix hsub.isInfix, ?_, ?_⟩
  · rw [hcut]
    rintro d ⟨rfl⟩
    exact hc
  · exact fun _ => Text.not_of_mem_getLast?_trimEndOf

/-- **Cutting makes no device.** If the cut exposes a dot, the name in front of it was there
before; if it does not, the stem is too long. -/
theorem IsSafe.not_isReserved_cut {t : Text} (ht : IsSafe t) (hres : ¬ IsReserved t) {limit : Nat}
    (hlimit : 25 ≤ limit) : ¬ IsReserved (FileName.cut limit t) := by
  obtain ⟨tail, htail, hedges⟩ := Text.exists_trimEndOf_append isEdge (t.fit limit)
  obtain ⟨rest, hrest⟩ := Text.fit_isPrefix limit t
  have hlast : ∀ c ∈ (FileName.cut limit t).getLast?, isEdge c = false :=
    fun _ => Text.not_of_mem_getLast?_trimEndOf
  change FileName.cut limit t ++ tail = t.fit limit at htail
  generalize FileName.cut limit t = s at *
  cases rest with
  | nil =>
    -- nothing was cut, and nothing stands at the end that could be trimmed
    rw [List.append_nil, ← htail] at hrest
    have hnil : tail = [] := by
      by_contra hne
      have hmem := List.getLast?_eq_some_getLast hne
      have := ht.last (tail.getLast hne) (by rw [← hrest, List.getLast?_append, hmem]; rfl)
      rw [hedges _ (List.getLast_mem hne)] at this
      exact Bool.noConfusion this
    rw [hnil, List.append_nil] at hrest
    rwa [hrest]
  | cons c rest =>
    by_cases hdot : Code.ofChar '.' ∈ s ++ tail
    · rw [← hrest, ← htail] at hres
      rw [IsReserved] at hres ⊢
      rwa [deviceKey_append_of_edges _ hedges hdot] at hres
    · rw [List.mem_append, not_or] at hdot
      refine not_isReserved_of_length hdot.1 hlast ?_
      have hblank : ∀ d ∈ tail, d.isBlank = true := by
        intro d hd
        rcases isEdge_iff.mp (hedges d hd) with rfl | rfl
        · rfl
        · exact absurd hd hdot.2
      have hinfix : tail <:+: t := ⟨s, c :: rest, by rw [htail, hrest]⟩
      have hone := (ht.spaced.of_isInfix hinfix).length_le_one hblank
      have hlt := Text.lt_length_of_fit hrest
      have hbytes := (t.fit limit).length_bytes_le
      have hc := c.length_utf8_le
      rw [← htail] at hlt hbytes
      rw [List.length_append] at hbytes
      omega

/-! ## Names of files -/

theorem isLegal_extension : IsLegal extension := by decide

/-- The number of bytes that the extension leaves for a stem. -/
def maxStemBytes : Nat := maxBytes - extension.length

/-- **Every name has a stem.** Nothing that is cut can hold a surrogate. -/
theorem stem?_eq {r : Text} (hr : IsLegal r) (raw : Text) :
    stem? (Replacement.spelled r) raw =
      .ok (cut maxStemBytes (guarded (orFallback (cleaned (Replacement.spelled r) raw)))) := by
  have ht := (isSafe_orFallback hr raw).guarded
  rw [stem?, truncate?_eq ht.legal.isEncodable, cut, maxStemBytes]
  rfl

theorem sanitize?_eq {r : Text} (hr : IsLegal r) (raw : Text) :
    sanitize? raw r =
      .ok (cut maxStemBytes (guarded (orFallback (cleaned (Replacement.spelled r) raw)))) := by
  simp only [sanitize?, Replacement.parse?_of_isLegal hr, Except.mapError_ok, Except.ok_bind,
    stem?_eq hr]

/-- **Every name has a file name**, made of a safe stem and the extension; it fits into one path
component and means no device. -/
theorem exists_ofName? {r : Text} (hr : IsLegal r) (raw : Text) :
    ∃ stem, ofName? raw r = .ok (stem ++ extension) ∧ IsSafe stem ∧
      ¬ IsReserved (stem ++ extension) ∧ (stem ++ extension).IsEncodable ∧
      (stem ++ extension).bytes.length ≤ maxBytes := by
  have ht := (isSafe_orFallback hr raw).guarded
  have hcut : IsSafe (cut maxStemBytes _) := ht.cut (by decide)
  refine ⟨_, ?_, hcut, ?_, ?_, ?_⟩
  · rw [ofName?, sanitize?_eq hr]
    rfl
  · rw [IsReserved, deviceKey_append_extension]
    exact ht.not_isReserved_cut (not_isReserved_guarded _) (by decide)
  · exact Text.isEncodable_append.mpr ⟨hcut.legal.isEncodable, isLegal_extension.isEncodable⟩
  · have := length_bytes_cut_le maxStemBytes
      (guarded (orFallback (cleaned (Replacement.spelled r) raw)))
    have hext : extension.bytes.length = maxBytes - maxStemBytes := by decide
    have hle : maxStemBytes ≤ maxBytes := by decide
    rw [Text.bytes_append, List.length_append]
    omega

end FileName

end ThemeForge

import ThemeForge.Files.Change
import ThemeForge.Proofs.Text.Escaped
import ThemeForge.Proofs.Text.Split

/-!
# Names on disk

The system knows a name by its bytes. Several texts can have the same bytes, since a surrogate may
stand for a byte of a character; what is read from disk is one of them.

* `Text.SameBytes`: texts that are one name to the system;
* `Text.escapedBytes_join`, `Text.intercalate_inj`: names between slashes, and their bytes;
* `FileSystem.namesText`: `namesText_sameBytes_iff` says what the text of names read from disk is
  the same as, and **`eq_of_sameBytes_namesText`** that among texts without surrogates it is the
  same as itself only.
-/

namespace ThemeForge

namespace Text

variable {s t u : Text} {ts us : List Text}

/-! ## Names between slashes -/

theorem slash_mem_escapedBytes : 47 ∈ t.escapedBytes ↔ Code.ofChar '/' ∈ t := by
  rw [escapedBytes, List.mem_flatMap]
  constructor
  · rintro ⟨c, hc, hb⟩
    have hval := (escapedForm_eq_of_mem_of_lt hb (by decide)).2
    rwa [show Code.ofChar '/' = c by cases c; cases hval; rfl]
  · exact fun h => ⟨_, h, by decide⟩

theorem isEscapable_append : IsEscapable (s ++ t) ↔ s.IsEscapable ∧ t.IsEscapable :=
  List.forall_mem_append

theorem isEscapable_join : IsEscapable (join "/" ts) ↔ ∀ t ∈ ts, t.IsEscapable := by
  constructor
  · exact fun h t ht c hc => h c (mem_join_of_mem ht hc)
  · intro h c hc
    rcases mem_or_exists_of_mem_join hc with hc | ⟨t, ht, hc⟩
    · rw [List.mem_singleton.mp hc]
      exact fun hs => absurd hs (by decide)
    · exact h t ht c hc

theorem escapedBytes_join (ts : List Text) :
    escapedBytes (join "/" ts) = [47].intercalate (ts.map escapedBytes) := by
  induction ts with
  | nil => rfl
  | cons t ts ih =>
    cases ts with
    | nil => rw [join, List.map_singleton, List.intercalate_singleton]
    | cons u ts =>
      rw [join_cons_cons, escapedBytes_append, escapedBytes_append, ih]
      simp only [List.map_cons, List.intercalate_cons_cons]
      rfl

theorem intercalate_ne_nil {b : Bytes} (hb : b ≠ []) (bs : List Bytes) :
    [47].intercalate (b :: bs) ≠ [] := by
  cases bs with
  | nil => rwa [List.intercalate_singleton]
  | cons b' bs =>
    rw [List.intercalate_cons_cons]
    simp [hb]

theorem length_intercalate {bs : List Bytes} (h : bs ≠ []) :
    ([47].intercalate bs).length + 1 = bs.flatten.length + bs.length := by
  induction bs with
  | nil => exact absurd rfl h
  | cons b bs ih =>
    cases bs with
    | nil => simp [List.intercalate_singleton]
    | cons b' bs =>
      have hrest := ih (List.cons_ne_nil b' bs)
      rw [List.intercalate_cons_cons, List.flatten_cons, List.length_cons (a := b)]
      simp only [List.length_append, List.length_singleton]
      omega

/-- Names that are not empty and hold no slash are told from what stands between slashes. -/
theorem intercalate_inj {bs cs : List Bytes} (hbs : ∀ b ∈ bs, b ≠ [] ∧ 47 ∉ b)
    (hcs : ∀ c ∈ cs, c ≠ [] ∧ 47 ∉ c) (h : [47].intercalate bs = [47].intercalate cs) :
    bs = cs := by
  cases bs with
  | nil =>
    cases cs with
    | nil => rfl
    | cons c cs => exact absurd h.symm (intercalate_ne_nil (hcs c List.mem_cons_self).1 cs)
  | cons b bs =>
    cases cs with
    | nil => exact absurd h (intercalate_ne_nil (hbs b List.mem_cons_self).1 bs)
    | cons c cs =>
      rw [← List.splitOn_intercalate 47 (fun b hb => (hbs b hb).2) (List.cons_ne_nil b bs), h,
        List.splitOn_intercalate 47 (fun c hc => (hcs c hc).2) (List.cons_ne_nil c cs)]

/-! ## Texts with the same bytes -/

/-- The texts have the same bytes, so that they are one name to the system. -/
def SameBytes (t u : Text) : Prop := t.IsEscapable ∧ u.IsEscapable ∧ t.escapedBytes = u.escapedBytes

instance (t : Text) : Decidable t.IsEscapable :=
  inferInstanceAs (Decidable (∀ c ∈ t, c.IsSurrogate → (Utf8.escapedByte? c).isSome))

instance (t u : Text) : Decidable (t.SameBytes u) :=
  inferInstanceAs (Decidable (_ ∧ _ ∧ _ = _))

theorem SameBytes.symm (h : t.SameBytes u) : u.SameBytes t := ⟨h.2.1, h.1, h.2.2.symm⟩

/-- An ASCII text has its bytes for itself. -/
theorem SameBytes.eq_of_ascii (h : t.SameBytes u) (ht : ∀ c ∈ t, c.val < 0x80) : t = u := by
  obtain ⟨-, -, h⟩ := h
  induction t generalizing u with
  | nil =>
    cases u with
    | nil => rfl
    | cons c u =>
      rw [escapedBytes_cons] at h
      exact absurd (List.append_eq_nil_iff.mp h.symm).1 (escapedForm_ne_nil c)
  | cons a t ih =>
    obtain ⟨ha, ht⟩ := List.forall_mem_cons.mp ht
    have hform : escapedForm a = [a.val.toUInt8] := by
      rw [escapedForm_of_not_isSurrogate (by unfold Code.IsSurrogate; omega), Code.utf8_of_lt ha]
    rw [escapedBytes_cons, hform] at h
    cases u with
    | nil => exact nomatch h
    | cons c u =>
      rw [escapedBytes_cons] at h
      -- the first byte is the whole of the first code point on either side
      have hmem : a.val.toUInt8 ∈ escapedForm c := by
        cases hc : escapedForm c with
        | nil => exact absurd hc (escapedForm_ne_nil c)
        | cons b form =>
          rw [hc] at h
          exact (List.cons.inj h).1 ▸ List.mem_cons_self
      have hnat : a.val.toUInt8.toNat = a.val := Utf8.toNat_toUInt8 (by omega)
      obtain ⟨hc, hval⟩ := escapedForm_eq_of_mem_of_lt hmem (by rw [hnat]; exact ha)
      rw [hc, List.append_cancel_left_eq] at h
      rw [hnat] at hval
      have hac : a = c := by
        cases a
        cases c
        cases hval
        rfl
      rw [hac, ih ht h]

end Text

namespace Utf8

theorem decodeEscaped_utf8_append {c : Code} (hc : ¬ c.IsSurrogate) (rest : Bytes) :
    decodeEscaped (c.utf8 ++ rest) = c :: decodeEscaped rest := by
  rw [decodeEscaped, pieces_utf8_append hc]
  rfl

/-- Escaping reading gives a text without surrogates back. -/
theorem decodeEscaped_bytes {t : Text} (ht : t.IsEncodable) : decodeEscaped t.bytes = t := by
  induction t with
  | nil => rfl
  | cons c t ih =>
    obtain ⟨hc, ht⟩ := Text.isEncodable_cons.mp ht
    rw [Text.bytes_cons, decodeEscaped_utf8_append hc, ih ht]

theorem isEscapable_decodeEscaped (b : Bytes) : (decodeEscaped b).IsEscapable :=
  (Text.encodeEscaped?_eq_ok_iff.mp (encodeEscaped?_decodeEscaped b)).1

theorem escapedBytes_decodeEscaped (b : Bytes) : (decodeEscaped b).escapedBytes = b :=
  (Text.encodeEscaped?_eq_ok_iff.mp (encodeEscaped?_decodeEscaped b)).2.symm

theorem map_escapedBytes_map_decodeEscaped (names : List Bytes) :
    (names.map decodeEscaped).map Text.escapedBytes = names := by
  rw [List.map_map]
  exact (List.map_congr_left fun b _ => escapedBytes_decodeEscaped b).trans (List.map_id names)

end Utf8

/-! ## Names read from disk -/

namespace FileSystem

variable {names : List Bytes} {ts : List Text}

theorem isEscapable_namesText (names : List Bytes) : (namesText names).IsEscapable := by
  rw [namesText, Text.isEscapable_join]
  intro t ht
  obtain ⟨b, -, rfl⟩ := List.mem_map.mp ht
  exact Utf8.isEscapable_decodeEscaped b

theorem escapedBytes_namesText (names : List Bytes) :
    (namesText names).escapedBytes = [47].intercalate names := by
  rw [namesText, Text.escapedBytes_join, Utf8.map_escapedBytes_map_decodeEscaped]

/-- What the text of names is the same as: texts for the names, between slashes. -/
theorem namesText_sameBytes_iff (hnames : ∀ b ∈ names, b ≠ [] ∧ 47 ∉ b)
    (hts : ∀ t ∈ ts, t ≠ [] ∧ Code.ofChar '/' ∉ t) :
    (namesText names).SameBytes (Text.join "/" ts) ↔
      (∀ t ∈ ts, t.IsEscapable) ∧ ts.map Text.escapedBytes = names := by
  have hbytes : ∀ b ∈ ts.map Text.escapedBytes, b ≠ [] ∧ 47 ∉ b := by
    intro b hb
    obtain ⟨t, ht, rfl⟩ := List.mem_map.mp hb
    refine ⟨fun hnil => (hts t ht).1 ?_, mt Text.slash_mem_escapedBytes.mp (hts t ht).2⟩
    cases t with
    | nil => rfl
    | cons c t =>
      rw [Text.escapedBytes_cons] at hnil
      exact absurd (List.append_eq_nil_iff.mp hnil).1 (Text.escapedForm_ne_nil c)
  rw [Text.SameBytes, Text.isEscapable_join, escapedBytes_namesText, Text.escapedBytes_join]
  constructor
  · exact fun ⟨_, hesc, h⟩ => ⟨hesc, (Text.intercalate_inj hnames hbytes h).symm⟩
  · exact fun ⟨hesc, h⟩ => ⟨isEscapable_namesText names, hesc, by rw [h]⟩

/-- **A text without surrogates is the same as the text of names only if it is that text.** -/
theorem eq_of_sameBytes_namesText (hnames : ∀ b ∈ names, b ≠ [] ∧ 47 ∉ b)
    (hts : ∀ t ∈ ts, t ≠ [] ∧ Code.ofChar '/' ∉ t) (hts' : ∀ t ∈ ts, t.IsEncodable)
    (h : (namesText names).SameBytes (Text.join "/" ts)) :
    namesText names = Text.join "/" ts := by
  obtain ⟨-, rfl⟩ := (namesText_sameBytes_iff hnames hts).mp h
  rw [namesText, List.map_map]
  congr 1
  refine (List.map_congr_left fun t ht => ?_).trans (List.map_id ts)
  have hbytes := (Text.encodeEscaped?_eq_ok_iff.mp (hts' t ht).encodeEscaped?).2
  rw [Function.comp_apply, ← hbytes, Utf8.decodeEscaped_bytes (hts' t ht)]
  rfl

end FileSystem

end ThemeForge

import ThemeForge.Files.Tree
import ThemeForge.Proofs.Text.Escaped
import ThemeForge.Proofs.Text.Split

/-!
# The bytes of paths

How the bytes of a path come from those of its names.

* `FilePath.isBareName_iff`: the names of files;
* `FilePath.exists_bytes?_iff`: the paths that have bytes without a zero byte;
* `FilePath.IsUsable`, `FilePath.Climbs`: paths that the system takes, and paths that go up;
* `FilePath.nameBytes_child`, `FilePath.exists_bytes?_child`, `FilePath.IsEntryName`: one more
  name.
-/

namespace ThemeForge

/-- A code point that a path may hold. -/
def Code.IsNameable (c : Code) : Prop :=
  c.val ≠ 0 ∧ (c.IsSurrogate → (Utf8.escapedByte? c).isSome)

namespace FilePath

/-- **The names of files are the texts that are neither empty nor a dot and hold no slash.** -/
theorem isBareName_iff {t : Text} :
    isBareName t = true ↔ t ≠ [] ∧ Code.ofChar '/' ∉ t ∧ t ≠ "." := by
  simp only [isBareName, Bool.and_eq_true, decide_eq_true_eq, beq_iff_eq]
  refine and_congr_right fun hne => ⟨fun h => ?_, fun ⟨hslash, hdot⟩ => ?_⟩
  · -- a text that is its own last name is one of the pieces
    have hmem : t ∈ (ofText t).names := by
      rw [name, List.getLastD_eq_getLast?] at h
      cases hlast : (ofText t).names.getLast? with
      | none =>
        rw [hlast] at h
        exact absurd h.symm hne
      | some last =>
        rw [hlast, Option.getD_some] at h
        have hmem := List.mem_of_getLast? hlast
        rwa [h] at hmem
    obtain ⟨hpiece, hstep⟩ := List.mem_filter.mp hmem
    refine ⟨Text.notMem_of_mem_splitOn hpiece, ?_⟩
    rintro rfl
    exact absurd hstep (by decide)
  · have hstep : isStep t = true := by simp [isStep, hne, hdot]
    rw [name, ofText, Text.splitOn_of_notMem hslash, List.filter_cons_of_pos hstep]
    rfl

theorem exists_bytes?_iff {p : FilePath} :
    (∃ b, p.bytes? = .ok b) ↔ ∀ c ∈ p.text, c.IsNameable := by
  unfold bytes? Code.IsNameable
  cases h : p.text.encodeEscaped? with
  | error f =>
    refine iff_of_false (nomatch ·) fun hall => ?_
    have := Text.encodeEscaped?_eq_ok_iff.mpr ⟨fun c hc => (hall c hc).2, rfl⟩
    rw [h] at this
    exact nomatch this
  | ok b =>
    obtain ⟨hesc, rfl⟩ := Text.encodeEscaped?_eq_ok_iff.mp h
    simp only [List.contains_eq_mem, decide_eq_true_eq]
    by_cases h0 : (0 : UInt8) ∈ p.text.escapedBytes
    · obtain ⟨c, hc, hval⟩ := Text.zero_mem_escapedBytes.mp h0
      rw [if_pos h0]
      exact iff_of_false (nomatch ·) fun hall => (hall c hc).1 hval
    · rw [if_neg h0]
      refine iff_of_true ⟨_, rfl⟩ fun c hc => ⟨fun hval => ?_, hesc c hc⟩
      exact h0 (Text.zero_mem_escapedBytes.mpr ⟨c, hc, hval⟩)

theorem mem_text_of_mem {p : FilePath} {n : Text} (hn : n ∈ p.names) {c : Code} (hc : c ∈ n) :
    c ∈ p.text := by
  rw [text, if_neg (fun h => List.ne_nil_of_mem hn h.2), List.mem_append]
  exact .inr (Text.mem_join_of_mem hn hc)

theorem bytes?_eq_ok {p : FilePath} {b : Bytes} (h : p.bytes? = .ok b) :
    b = p.text.escapedBytes := by
  unfold bytes? at h
  cases ht : p.text.encodeEscaped? with
  | error f => simp [ht] at h
  | ok b' =>
    obtain ⟨-, rfl⟩ := Text.encodeEscaped?_eq_ok_iff.mp ht
    simp only [ht] at h
    split at h
    · exact nomatch h
    · exact (Except.ok.inj h).symm

/-- The path has bytes, no zero byte among them, and not too many. -/
def IsUsable (p : FilePath) : Prop :=
  ∃ b, p.bytes? = .ok b ∧ b.length ≤ FileSystem.maxPathBytes

theorem IsUsable.of_append {p : FilePath} {steps : List Text}
    (h : IsUsable { p with names := p.names ++ steps }) : p.IsUsable := by
  by_cases hp : p.root = [] ∧ p.names = []
  · have hdot : p.text = "." := if_pos hp
    refine ⟨[46], ?_, by decide⟩
    rw [bytes?, hdot]
    rfl
  · obtain ⟨b, hb, hlen⟩ := h
    have hprefix : p.text <+: text { p with names := p.names ++ steps } := by
      rw [text, text, if_neg hp, if_neg (fun h => hp ⟨h.1, (List.append_eq_nil_iff.mp h.2).1⟩)]
      exact (List.prefix_append_right_inj _).mpr (Text.join_isPrefix _ _ _)
    obtain ⟨rest, hrest⟩ := hprefix
    obtain ⟨b', hb'⟩ := exists_bytes?_iff.mpr fun c hc =>
      exists_bytes?_iff.mp ⟨b, hb⟩ c (hrest ▸ List.mem_append_left rest hc)
    refine ⟨b', hb', ?_⟩
    rw [bytes?_eq_ok hb, ← hrest, Text.escapedBytes_append, List.length_append,
      ← bytes?_eq_ok hb'] at hlen
    exact Nat.le_trans (Nat.le_add_right _ _) hlen

theorem IsUsable.isEscapable {p : FilePath} (h : p.IsUsable) {n : Text} (hn : n ∈ p.names) :
    n.IsEscapable := by
  obtain ⟨b, hb, -⟩ := h
  exact fun c hc => (exists_bytes?_iff.mp ⟨b, hb⟩ c (mem_text_of_mem hn hc)).2

/-- Some name of the path is that of two dots. -/
def Climbs (p : FilePath) : Prop := (".." : Text) ∈ p.names

instance (p : FilePath) : Decidable p.Climbs := inferInstanceAs (Decidable ((_ : Text) ∈ p.names))

theorem dots_notMem_nameBytes {p : FilePath} (h : ¬ p.Climbs) : [46, 46] ∉ p.nameBytes := by
  intro hmem
  rw [nameBytes, List.mem_filterMap] at hmem
  obtain ⟨n, hn, hb⟩ := hmem
  cases he : n.encodeEscaped? with
  | error f => simp [he, Except.toOption] at hb
  | ok b =>
    rw [he, Except.toOption, Option.some.injEq] at hb
    subst hb
    rw [Text.eq_dots_of_encodeEscaped? he] at hn
    exact h hn

theorem nameBytes_eq {p : FilePath} (h : ∀ n ∈ p.names, n.IsEscapable) :
    p.nameBytes = p.names.map Text.escapedBytes := by
  rw [nameBytes, ← List.filterMap_eq_map]
  refine List.filterMap_congr fun n hn => ?_
  rw [Text.encodeEscaped?_eq_ok_iff.mpr ⟨h n hn, rfl⟩]
  rfl

theorem nameBytes_append (p : FilePath) (steps : List Text) :
    nameBytes { p with names := p.names ++ steps } =
      p.nameBytes ++ nameBytes ⟨p.root, steps⟩ :=
  List.filterMap_append

theorem nameBytes_child (p : FilePath) {n : Text} {b : Bytes} (hb : n.encodeEscaped? = .ok b) :
    (p.child n).nameBytes = p.nameBytes ++ [b] := by
  rw [child, nameBytes_append]
  simp [nameBytes, hb, Except.toOption]

theorem mem_text_child {p : FilePath} {n : Text} {c : Code} (hc : c ∈ (p.child n).text) :
    c ∈ p.text ∨ c = '/' ∨ c ∈ n := by
  by_cases hp : p.root = [] ∧ p.names = []
  · rw [text, if_neg (by simp [child]), child, hp.1, hp.2] at hc
    exact .inr (.inr hc)
  · rw [text, if_neg (by simp [child]), child, List.mem_append] at hc
    rw [text, if_neg hp, List.mem_append]
    rcases hc with hc | hc
    · exact .inl (.inl hc)
    · rcases Text.mem_or_exists_of_mem_join hc with hc | ⟨t, ht, hc⟩
      · exact .inr (.inl (List.mem_singleton.mp hc))
      · rcases List.mem_append.mp ht with ht | ht
        · exact .inl (.inr (Text.mem_join_of_mem ht hc))
        · exact .inr (.inr (List.mem_singleton.mp ht ▸ hc))

theorem exists_bytes?_child {p : FilePath} (hp : ∃ b, p.bytes? = .ok b) {n : Text}
    (hn : ∀ c ∈ n, c.IsNameable) : ∃ b, (p.child n).bytes? = .ok b := by
  rw [exists_bytes?_iff] at hp ⊢
  intro c hc
  rcases mem_text_child hc with hc | rfl | hc
  · exact hp c hc
  · exact ⟨by decide, by decide⟩
  · exact hn c hc

theorem mem_text_child_of_mem {p : FilePath} {n : Text} {c : Code} (hc : c ∈ n) :
    c ∈ (p.child n).text :=
  mem_text_of_mem (List.mem_append_right p.names (List.mem_singleton_self n)) hc

/-- The last name of a path that has bytes has bytes of its own. -/
theorem exists_encodeEscaped?_of_child {p : FilePath} {n : Text}
    (h : ∃ b, (p.child n).bytes? = .ok b) : ∃ b, n.encodeEscaped? = .ok b := by
  have hall := exists_bytes?_iff.mp h
  refine ⟨_, Text.encodeEscaped?_eq_ok_iff.mpr ⟨fun c hc => ?_, rfl⟩⟩
  exact (hall c (mem_text_child_of_mem hc)).2

theorem upTo_length (p : FilePath) : p.upTo p.names.length = p := by
  rw [upTo, List.take_length]

theorem start_upTo (p : FilePath) (n : Nat) : (p.upTo n).start = p.start := rfl

theorem nameBytes_upTo_isPrefix (p : FilePath) (n : Nat) :
    (p.upTo n).nameBytes <+: p.nameBytes :=
  (List.take_prefix n p.names).filterMap _

theorem Climbs.of_upTo {p : FilePath} {n : Nat} (h : (p.upTo n).Climbs) : p.Climbs :=
  List.mem_of_mem_take h

/-- A text whose bytes are `b` and that an entry of a directory may bear. -/
structure IsEntryName (n : Text) (b : Bytes) : Prop where
  encoded : n.encodeEscaped? = .ok b
  nameable : ∀ c ∈ n, c.IsNameable
  ne_dots : b ≠ [46, 46]
  length_le : b.length ≤ FileSystem.maxNameBytes

end FilePath

end ThemeForge

import ThemeForge.Proofs.Files.Name
import ThemeForge.Proofs.Files.Tree

/-!
# Directories that are looked through

What lies below a directory is what paths down from it lead to.

* `FilePath.on`, `FilePath.locate_on_congr`: steps down from a path, which count by their bytes;
* `FileSystem.IsEntry`: the bytes that an entry of a directory may be named by;
* `FileSystem.IsSound`, `FileSystem.isSound_iff`: a tree in which every place is named once, by such
  bytes;
* `FileSystem.mem_filesBelow_iff`: the files below a place;
* **`FileSystem.IsSound.locate_down`**: where the system takes a path, it leads down to whatever
  is there;
* **`FileSystem.IsSound.exists_listed`**, **`FileSystem.IsSound.exists_file`**: looking through a
  directory and following paths down from it agree.
-/

namespace ThemeForge

namespace FilePath

variable {d : FilePath} {ts us : List Text}

/-! ## Steps with the same bytes -/

/-- The path that goes on from `d` by some steps. -/
def on (d : FilePath) (steps : List Text) : FilePath := { d with names := d.names ++ steps }

@[simp] theorem root_on (d : FilePath) (steps : List Text) : (d.on steps).root = d.root := rfl

@[simp] theorem names_on (d : FilePath) (steps : List Text) :
    (d.on steps).names = d.names ++ steps := rfl

theorem on_nil (d : FilePath) : d.on [] = d := by
  rw [on, List.append_nil]

theorem on_append (d : FilePath) (ts us : List Text) : d.on (ts ++ us) = (d.on ts).on us := by
  rw [on, on, on, List.append_assoc]

theorem exists_bytes?_on (h : ∃ b, d.bytes? = .ok b) (hts : ∀ t ∈ ts, ∀ c ∈ t, c.IsNameable) :
    ∃ b, (d.on ts).bytes? = .ok b := by
  induction ts generalizing d with
  | nil => rwa [on_nil]
  | cons t ts ih =>
    obtain ⟨ht, hts⟩ := List.forall_mem_cons.mp hts
    rw [← List.singleton_append, on_append]
    exact ih (exists_bytes?_child h ht) hts

theorem IsUsable.nameBytes_on (h : (d.on ts).IsUsable) :
    (d.on ts).nameBytes = d.nameBytes ++ ts.map Text.escapedBytes := by
  rw [on, nameBytes_append]
  congr 1
  exact nameBytes_eq fun n hn => h.isEscapable (List.mem_append_right d.names hn)

/-- The bytes of a path are those of its names. -/
theorem sameBytes_text_on (h : (d.on ts).text.IsEscapable) (hus : ∀ u ∈ us, u.IsEscapable)
    (heq : ts.map Text.escapedBytes = us.map Text.escapedBytes) :
    (d.on ts).text.SameBytes (d.on us).text := by
  have hnil : (d.on ts).root = [] ∧ (d.on ts).names = [] ↔
      (d.on us).root = [] ∧ (d.on us).names = [] := by
    have hlen := congrArg List.length heq
    rw [List.length_map, List.length_map] at hlen
    simp only [on, List.append_eq_nil_iff, ← List.length_eq_zero_iff (l := ts), hlen,
      List.length_eq_zero_iff]
  by_cases hts : (d.on ts).root = [] ∧ (d.on ts).names = []
  · rw [text, text, if_pos hts, if_pos (hnil.mp hts)]
    exact ⟨by decide, by decide, rfl⟩
  · rw [text, if_neg hts] at h
    rw [text, text, if_neg hts, if_neg (mt hnil.mpr hts)]
    obtain ⟨hroot, hnames⟩ := Text.isEscapable_append.mp h
    obtain ⟨hd, -⟩ := List.forall_mem_append.mp (Text.isEscapable_join.mp hnames)
    refine ⟨h, Text.isEscapable_append.mpr
      ⟨hroot, Text.isEscapable_join.mpr (List.forall_mem_append.mpr ⟨hd, hus⟩)⟩, ?_⟩
    rw [Text.escapedBytes_append, Text.escapedBytes_append, Text.escapedBytes_join,
      Text.escapedBytes_join, on, on, List.map_append, List.map_append, heq]

theorem length_text {p : FilePath} (hroot : p.root = []) (hnames : p.names ≠ []) :
    p.text.escapedBytes.length + 1 =
      (p.names.map Text.escapedBytes).flatten.length + p.names.length := by
  rw [text, if_neg fun h => hnames h.2, hroot, List.nil_append, Text.escapedBytes_join,
    Text.length_intercalate (by simpa using hnames), List.length_map]

theorem IsUsable.of_sameBytes {p q : FilePath} (h : p.IsUsable) (hpq : p.text.SameBytes q.text) :
    q.IsUsable := by
  obtain ⟨b, hb, hlen⟩ := h
  obtain ⟨hp, hq, heq⟩ := hpq
  refine ⟨b, ?_, hlen⟩
  rw [← hb, bytes?, bytes?, Text.encodeEscaped?_eq_ok_iff.mpr ⟨hp, rfl⟩,
    Text.encodeEscaped?_eq_ok_iff.mpr ⟨hq, heq⟩]

theorem IsUsable.of_steps (h : (d.on ts).IsUsable) (hus : ∀ u ∈ us, u.IsEscapable)
    (heq : ts.map Text.escapedBytes = us.map Text.escapedBytes) : (d.on us).IsUsable := by
  refine h.of_sameBytes (sameBytes_text_on ?_ hus heq)
  obtain ⟨b, hb, -⟩ := h
  exact fun c hc => (exists_bytes?_iff.mp ⟨b, hb⟩ c hc).2

theorem IsUsable.down (h : (d.on ts).IsUsable) :
    (d.down (ts.map Text.escapedBytes)).IsUsable := by
  refine IsUsable.of_steps h (fun u hu => ?_) (Utf8.map_escapedBytes_map_decodeEscaped _).symm
  obtain ⟨b, -, rfl⟩ := List.mem_map.mp hu
  exact Utf8.isEscapable_decodeEscaped b

/-- Paths with the same bytes lead to the same place. -/
theorem locate_on_congr {fs : FileSystem} {l : Location} (h : fs.locate (d.on ts) = .ok l)
    (hus : ∀ u ∈ us, u.IsEscapable)
    (heq : ts.map Text.escapedBytes = us.map Text.escapedBytes) :
    fs.locate (d.on us) = .ok l := by
  obtain ⟨husable, hfollow⟩ := FileSystem.locate_eq_ok_iff.mp h
  have husable' := husable.of_steps hus heq
  refine FileSystem.locate_eq_ok_iff.mpr ⟨husable', ?_⟩
  rw [husable.nameBytes_on, heq] at hfollow
  rwa [husable'.nameBytes_on]

end FilePath

namespace FileSystem

variable {fs : FileSystem} {l place : Location} {d : FilePath} {names : List Bytes}
  {steps : List Text}

/-! ## Sound file systems -/

/-- An entry of a directory may be named by these bytes. -/
structure IsEntry (b : Bytes) : Prop where
  ne_nil : b ≠ []
  ne_dot : b ≠ [46]
  ne_dots : b ≠ [46, 46]
  noSlash : 47 ∉ b
  noZero : 0 ∉ b
  length_le : b.length ≤ maxNameBytes

instance (b : Bytes) : Decidable (IsEntry b) :=
  decidable_of_iff (b ≠ [] ∧ b ≠ [46] ∧ b ≠ [46, 46] ∧ 47 ∉ b ∧ 0 ∉ b ∧ b.length ≤ maxNameBytes)
    ⟨fun ⟨h₁, h₂, h₃, h₄, h₅, h₆⟩ => ⟨h₁, h₂, h₃, h₄, h₅, h₆⟩,
      fun ⟨h₁, h₂, h₃, h₄, h₅, h₆⟩ => ⟨h₁, h₂, h₃, h₄, h₅, h₆⟩⟩

theorem IsEntry.isNameable {t : Text} (h : IsEntry t.escapedBytes) (ht : t.IsEscapable) :
    ∀ c ∈ t, c.IsNameable :=
  fun c hc => ⟨fun hzero => h.noZero (Text.zero_mem_escapedBytes.mpr ⟨c, hc, hzero⟩), ht c hc⟩

/-- A tree in which every place is named once, by bytes that entries may have. -/
structure IsSound (fs : FileSystem) : Prop where
  tree : fs.IsTree
  once : ∀ x ∈ fs.entries, fs.lookup x.1 = some x.2
  named : ∀ x ∈ fs.entries, ∀ b ∈ x.1.names, IsEntry b

/-- What makes a file system sound is seen from its entries. -/
theorem isSound_iff : fs.IsSound ↔ ∀ x ∈ fs.entries, fs.lookup x.1 = some x.2 ∧
    fs.lookup x.1.parent = some .directory ∧ ∀ b ∈ x.1.names, IsEntry b := by
  constructor
  · intro h x hx
    exact ⟨h.once x hx, h.tree x.1 (by rw [h.once x hx]; rfl), h.named x hx⟩
  · refine fun h => ⟨fun l hl => ?_, fun x hx => (h x hx).1, fun x hx => (h x hx).2.2⟩
    by_cases hn : l.names = []
    · refine lookup_of_nil ?_
      obtain ⟨base, names⟩ := l
      cases base <;> subst hn <;> rfl
    · rw [lookup_of_ne_nil hn, List.lookup_isSome_iff] at hl
      obtain ⟨x, hx, heq⟩ := hl
      rw [beq_iff_eq.mp heq]
      exact (h x hx).2.1

instance (fs : FileSystem) : Decidable fs.IsSound := decidable_of_iff _ isSound_iff.symm

/-- Whatever is there, apart from the directories that always are, has a name for each step. -/
theorem IsSound.isEntry (h : fs.IsSound) (hl : (fs.lookup l).isSome) {b : Bytes}
    (hb : b ∈ l.names) : IsEntry b := by
  rw [lookup_of_ne_nil (List.ne_nil_of_mem hb), List.lookup_isSome_iff] at hl
  obtain ⟨x, hx, heq⟩ := hl
  rw [beq_iff_eq] at heq
  exact h.named x hx b (heq ▸ hb)

/-! ## Files below a place -/

theorem IsSound.mem_filesBelow_iff (h : fs.IsSound) : names ∈ fs.filesBelow l ↔
    ∃ content stamp, fs.lookup ⟨l.base, l.names ++ names⟩ = some (.file content stamp) := by
  rw [filesBelow, List.mem_filterMap]
  constructor
  · rintro ⟨⟨place, entry⟩, hx, hbelow⟩
    cases entry with
    | file content stamp =>
      rw [← Location.below?_eq_some_iff.mp hbelow]
      exact ⟨content, stamp, h.once _ hx⟩
    | directory => exact nomatch hbelow
  · rintro ⟨content, stamp, hfile⟩
    have hne : (⟨l.base, l.names ++ names⟩ : Location).names ≠ [] := by
      intro hnil
      rw [lookup_of_nil hnil] at hfile
      exact nomatch hfile
    rw [lookup_of_ne_nil hne] at hfile
    obtain ⟨before, after, hentries, -⟩ := List.lookup_eq_some_iff.mp hfile
    refine ⟨(⟨l.base, l.names ++ names⟩, .file content stamp), ?_, ?_⟩
    · rw [hentries]
      simp
    · exact Location.below?_eq_some_iff.mpr rfl

/-! ## Paths that go down -/

/-- In a sound file system, the steps down to what is there can be made. -/
theorem IsSound.follow_down (h : fs.IsSound)
    (hplace : (fs.lookup ⟨l.base, l.names ++ names⟩).isSome) :
    fs.follow l names = .ok ⟨l.base, l.names ++ names⟩ := by
  induction names generalizing l with
  | nil => simp [follow]
  | cons b names ih =>
    have hdir := h.tree.lookup_of_below hplace
    have hb : IsEntry b := h.isEntry hplace (List.mem_append_right l.names List.mem_cons_self)
    have hsplit : (⟨l.base, l.names ++ b :: names⟩ : Location) =
        ⟨(l.child b).base, (l.child b).names ++ names⟩ := by simp [Location.child]
    rw [hsplit] at hplace ⊢
    exact follow_cons_eq_ok_iff.mpr
      ⟨l.child b, step_eq_ok_iff.mpr ⟨hdir, .inr ⟨hb.ne_dots, hb.length_le, rfl⟩⟩, ih hplace⟩

/-- **Where the system takes a path, it leads down to whatever is there.** -/
theorem IsSound.locate_down (h : fs.IsSound) (hd : fs.locate d = .ok l)
    (husable : (d.on steps).IsUsable)
    (hplace : (fs.lookup ⟨l.base, l.names ++ steps.map Text.escapedBytes⟩).isSome) :
    fs.locate (d.on steps) = .ok ⟨l.base, l.names ++ steps.map Text.escapedBytes⟩ := by
  refine locate_eq_ok_iff.mpr ⟨husable, ?_⟩
  rw [husable.nameBytes_on]
  exact follow_append_eq_ok_iff.mpr ⟨l, (locate_eq_ok_iff.mp hd).2, h.follow_down hplace⟩

/-- A path that does not go up leads to what is below its beginning. -/
theorem exists_of_locate_on (hsteps : (".." : Text) ∉ steps)
    (h : fs.locate (d.on steps) = .ok place) : ∃ l, fs.locate d = .ok l ∧
      place = ⟨l.base, l.names ++ steps.map Text.escapedBytes⟩ := by
  obtain ⟨husable, hfollow⟩ := locate_eq_ok_iff.mp h
  rw [husable.nameBytes_on] at hfollow
  obtain ⟨l, hl, hdown⟩ := follow_append_eq_ok_iff.mp hfollow
  refine ⟨l, locate_eq_ok_iff.mpr ⟨husable.of_append, hl⟩, follow_eq_of_notMem ?_ hdown⟩
  have hdots := FilePath.dots_notMem_nameBytes (p := ⟨d.root, steps⟩) hsteps
  rwa [FilePath.nameBytes_eq fun n hn => husable.isEscapable (List.mem_append_right _ hn)] at hdots

/-! ## What is listed is found, and the other way round -/

/-- Where a path leads to a file below a directory, looking through the directory meets it. -/
theorem IsSound.exists_listed (h : fs.IsSound) (hd : fs.file? d = none)
    (hsteps : (".." : Text) ∉ steps) {x : Bytes × Nat} (hfile : fs.file? (d.on steps) = some x) :
    ∃ l, fs.locate d = .ok l ∧ fs.lookup l = some .directory ∧
      steps.map Text.escapedBytes ∈ fs.filesBelow l ∧
      fs.hasDirectory (d.down (steps.map Text.escapedBytes).dropLast) = true := by
  obtain ⟨content, stamp⟩ := x
  obtain ⟨place, hloc, hlook⟩ := file?_eq_some_iff.mp hfile
  obtain ⟨husable, -⟩ := locate_eq_ok_iff.mp hloc
  obtain ⟨l, hl, rfl⟩ := exists_of_locate_on hsteps hloc
  cases steps using List.reverseRecOn with
  | nil =>
    -- without a step, the directory would be the file
    rw [FilePath.on_nil, hd] at hfile
    exact nomatch hfile
  | append_singleton steps last =>
    have hup : fs.lookup ⟨l.base, l.names ++ steps.map Text.escapedBytes⟩ = some .directory := by
      have hsome : (fs.lookup ⟨l.base, (l.names ++ steps.map Text.escapedBytes) ++
          [last.escapedBytes]⟩).isSome := by
        rw [List.append_assoc, ← List.map_singleton, ← List.map_append, hlook]
        rfl
      exact h.tree.lookup_of_below hsome
    have hdir : fs.lookup l = some .directory := by
      cases steps with
      | nil => simpa using hup
      | cons t steps =>
        have hsome : (fs.lookup ⟨l.base, l.names ++ t.escapedBytes ::
            steps.map Text.escapedBytes⟩).isSome := by
          rw [← List.map_cons, hup]
          rfl
        exact h.tree.lookup_of_below hsome
    refine ⟨l, hl, hdir, h.mem_filesBelow_iff.mpr ⟨content, stamp, hlook⟩, hasDirectory_iff.mpr ?_⟩
    have hdown : (d.down (steps.map Text.escapedBytes)).IsUsable := by
      rw [FilePath.on_append] at husable
      exact husable.of_append.down
    rw [List.map_append, List.map_singleton, List.dropLast_concat]
    have hbytes := Utf8.map_escapedBytes_map_decodeEscaped (steps.map Text.escapedBytes)
    refine ⟨_, h.locate_down hl hdown ?_, ?_⟩ <;> rw [hbytes, hup]
    rfl

/-- The system takes the path to what looking through a directory meets, unless it is too long. -/
theorem IsSound.isUsable_on (h : fs.IsSound) (hl : fs.locate d = .ok l)
    (hmem : steps.map Text.escapedBytes ∈ fs.filesBelow l) (hesc : ∀ t ∈ steps, t.IsEscapable)
    (hlen : (d.on steps).text.escapedBytes.length ≤ maxPathBytes) : (d.on steps).IsUsable := by
  obtain ⟨content, stamp, hlook⟩ := h.mem_filesBelow_iff.mp hmem
  obtain ⟨⟨b, hb, -⟩, -⟩ := locate_eq_ok_iff.mp hl
  have hnameable : ∀ t ∈ steps, ∀ c ∈ t, c.IsNameable := by
    intro t ht
    have hentry : IsEntry t.escapedBytes := h.isEntry (by rw [hlook]; rfl)
      (List.mem_append_right l.names (List.mem_map_of_mem ht))
    exact hentry.isNameable (hesc t ht)
  obtain ⟨b', hb'⟩ := FilePath.exists_bytes?_on ⟨b, hb⟩ hnameable
  exact ⟨b', hb', FilePath.bytes?_eq_ok hb' ▸ hlen⟩

/-- What looking through a directory meets is a file that a path leads to, if the path is not too
long. -/
theorem IsSound.exists_file (h : fs.IsSound) (hl : fs.locate d = .ok l)
    (hmem : steps.map Text.escapedBytes ∈ fs.filesBelow l) (hesc : ∀ t ∈ steps, t.IsEscapable)
    (hlen : (d.on steps).text.escapedBytes.length ≤ maxPathBytes) :
    ∃ x, fs.file? (d.on steps) = some x := by
  obtain ⟨content, stamp, hlook⟩ := h.mem_filesBelow_iff.mp hmem
  have husable := h.isUsable_on hl hmem hesc hlen
  exact ⟨_, file?_eq_some_iff.mpr ⟨_, h.locate_down hl husable (by rw [hlook]; rfl), hlook⟩⟩

end FileSystem

end ThemeForge

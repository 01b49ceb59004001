import Mathlib.Data.List.Induction
import ThemeForge.Proofs.Except
import ThemeForge.Proofs.Files.Path

/-!
# Places and what is at them

What a change does to the view of the file system, and how long a path keeps leading to the same
place.

* `FileSystem.lookup_put`, `FileSystem.IsTree.erase_putFile`: changes, and a new file that is
  removed;
* `FileSystem.Extends`, `FileSystem.KeepsDirectories`: what is kept from one state to another;
* `FileSystem.locate_of_keepsDirectories`: a path leads to the same place while the directories on
  its way are there;
* `FileSystem.IsTree.put`, **`FileSystem.IsTree.follow`**: in a tree, steps that go down reach
  whatever exists.
-/

namespace ThemeForge

namespace Location

variable {l place : Location}

@[simp] theorem parent_child (l : Location) (n : Bytes) : (l.child n).parent = l := by
  obtain ⟨base, names⟩ := l
  cases names with
  | nil => cases base <;> rfl
  | cons m names =>
    have hlast : (m :: (names ++ [n])).dropLast = m :: names := by
      rw [← List.cons_append, List.dropLast_concat]
    cases base <;> simp only [child, parent, List.cons_append, hlast]

theorem child_inj {l' : Location} {m n : Bytes} : l.child m = l'.child n ↔ l = l' ∧ m = n := by
  refine ⟨fun h => ⟨?_, ?_⟩, fun ⟨hl, hn⟩ => hl ▸ hn ▸ rfl⟩
  · rw [← parent_child l m, h, parent_child]
  · simpa [child] using congrArg (fun l => l.names.getLast?) h

theorem below?_eq_some_iff {names : List Bytes} :
    l.below? place = some names ↔ place = ⟨l.base, l.names ++ names⟩ := by
  obtain ⟨base, given⟩ := place
  unfold below?
  simp only [List.isPrefixOf_iff_prefix, mk.injEq]
  constructor
  · intro h
    split at h
    · rename_i hc
      obtain ⟨rfl, rest, rfl⟩ := hc
      rw [List.drop_left, Option.some.injEq] at h
      exact ⟨rfl, by rw [h]⟩
    · exact nomatch h
  · rintro ⟨rfl, rfl⟩
    rw [if_pos ⟨rfl, List.prefix_append _ _⟩, List.drop_left]

end Location

/-- Pairs are left out by their keys. -/
theorem lookup_filter_key {α β : Type} [BEq α] [LawfulBEq α] (p : α → Bool)
    (entries : List (α × β)) (a : α) :
    (entries.filter fun x => p x.1).lookup a = if p a then entries.lookup a else none := by
  induction entries with
  | nil => simp
  | cons x entries ih =>
    obtain ⟨k, b⟩ := x
    rw [List.filter_cons, List.lookup_cons]
    by_cases hk : a = k
    · subst hk
      by_cases hp : p a = true <;> simp [hp, ih]
    · rw [beq_false_of_ne hk]
      by_cases hp : p k = true <;> simp [hp, ih, List.lookup_cons, beq_false_of_ne hk]

namespace FileSystem

variable {fs fs' fs'' : FileSystem} {l l' : Location}

/-! ## Changes -/

theorem lookup_of_nil (h : l.names = []) : fs.lookup l = some .directory := if_pos h

theorem names_ne_nil_of_none (h : fs.lookup l = none) : l.names ≠ [] := fun hn => by
  rw [lookup_of_nil hn] at h
  exact nomatch h

theorem lookup_of_ne_nil (h : l.names ≠ []) : fs.lookup l = fs.entries.lookup l := if_neg h

theorem lookup_map_replace (entries : List (Location × Entry)) (e : Entry) (l l' : Location) :
    (entries.map fun x => if x.1 = l then (l, e) else x).lookup l' =
      if l' = l then (entries.lookup l).map fun _ => e else entries.lookup l' := by
  induction entries with
  | nil => simp
  | cons x entries ih =>
    obtain ⟨k, old⟩ := x
    rw [List.map_cons, List.lookup_cons, List.lookup_cons, List.lookup_cons, ih]
    by_cases hk : k = l
    · subst hk
      by_cases hl : l' = k <;> simp [hl, beq_false_of_ne]
    · by_cases hl : l' = l
      · subst hl
        simp [hk, beq_false_of_ne (Ne.symm hk)]
      · simp [hk, hl]

theorem any_eq_isSome_lookup (entries : List (Location × Entry)) (l : Location) :
    entries.any (fun x => x.1 == l) = (entries.lookup l).isSome := by
  rw [Bool.eq_iff_iff, List.lookup_isSome_iff, List.any_eq_true]
  refine exists_congr fun x => and_congr_right fun _ => ?_
  rw [beq_iff_eq, beq_iff_eq, eq_comm]

theorem lookup_put_of_ne_nil (hn : l'.names ≠ []) (e : Entry) :
    (fs.put l e).lookup l' = if l' = l then some e else fs.lookup l' := by
  rw [lookup_of_ne_nil hn, lookup_of_ne_nil hn, put, any_eq_isSome_lookup]
  cases hold : fs.entries.lookup l with
  | some old =>
    simp only [Option.isSome_some, if_true]
    rw [lookup_map_replace, hold]
    rfl
  | none =>
    simp only [Option.isSome_none, Bool.false_eq_true, if_false]
    rw [List.lookup_append]
    by_cases heq : l' = l
    · simp [heq, hold]
    · simp [heq, List.lookup_cons, beq_false_of_ne heq]

theorem lookup_put (hl : l.names ≠ []) (e : Entry) (l' : Location) :
    (fs.put l e).lookup l' = if l' = l then some e else fs.lookup l' := by
  by_cases hn : l'.names = []
  · have hne : l' ≠ l := by
      rintro rfl
      exact hl hn
    rw [lookup_of_nil hn, lookup_of_nil hn, if_neg hne]
  · exact lookup_put_of_ne_nil hn e

theorem lookup_putFile (hl : l.names ≠ []) (content : Bytes) (l' : Location) :
    (fs.putFile l content).lookup l' =
      if l' = l then some (.file content fs.clock) else fs.lookup l' :=
  lookup_put hl _ l'

/-- A new file changes nothing else, and is the last of the entries. -/
theorem putFile_of_none (h : fs.lookup l = none) (content : Bytes) : fs.putFile l content =
    ⟨fs.entries ++ [(l, .file content fs.clock)], fs.clock + 1⟩ := by
  have hl : l.names ≠ [] := names_ne_nil_of_none h
  rw [lookup_of_ne_nil hl] at h
  rw [putFile, put, any_eq_isSome_lookup, h]
  rfl

/-! ## What is kept -/

/-- Whatever was there still is, unchanged. -/
def Extends (fs fs' : FileSystem) : Prop := ∀ l e, fs.lookup l = some e → fs'.lookup l = some e

/-- The directories that were there still are. -/
def KeepsDirectories (fs fs' : FileSystem) : Prop :=
  ∀ l, fs.lookup l = some .directory → fs'.lookup l = some .directory

theorem Extends.refl (fs : FileSystem) : fs.Extends fs := fun _ _ h => h

theorem Extends.trans (h : fs.Extends fs') (h' : fs'.Extends fs'') : fs.Extends fs'' :=
  fun l e hl => h' l e (h l e hl)

theorem Extends.lookup_eq_none (h : fs.Extends fs') (hl : fs'.lookup l = none) :
    fs.lookup l = none := by
  cases he : fs.lookup l with
  | none => rfl
  | some e =>
    rw [h l e he] at hl
    exact nomatch hl

theorem Extends.keepsDirectories (h : fs.Extends fs') : fs.KeepsDirectories fs' :=
  fun l => h l .directory

theorem extends_put (h : fs.lookup l = none) (e : Entry) : fs.Extends (fs.put l e) := by
  intro l' e' hl'
  have hl : l.names ≠ [] := names_ne_nil_of_none h
  rw [lookup_put hl, if_neg, hl']
  rintro rfl
  rw [h] at hl'
  exact nomatch hl'

theorem extends_putFile (h : fs.lookup l = none) (content : Bytes) :
    fs.Extends (fs.putFile l content) := extends_put h _

/-! ## Following paths -/

theorem step_eq_ok_iff {n : Bytes} : fs.step l n = .ok l' ↔
    fs.lookup l = some .directory ∧ ((n = [46, 46] ∧ l' = l.parent) ∨
      (n ≠ [46, 46] ∧ n.length ≤ maxNameBytes ∧ l' = l.child n)) := by
  unfold step
  rcases fs.lookup l with _ | ⟨c, s⟩ | _
  · simp
  · simp
  · by_cases hdots : n = [46, 46]
    · simp [hdots, eq_comm]
    · by_cases hlen : n.length ≤ maxNameBytes
      · simp [hdots, hlen, Nat.not_lt.mpr hlen, eq_comm]
      · simp [hdots, hlen, Nat.lt_of_not_le hlen]

theorem follow_cons_eq_ok_iff {n : Bytes} {names : List Bytes} :
    fs.follow l (n :: names) = .ok l' ↔
      ∃ m, fs.step l n = .ok m ∧ fs.follow m names = .ok l' := by
  rw [follow]
  cases fs.step l n with
  | error e => simp
  | ok m => simp

theorem follow_append_eq_ok_iff {names names' : List Bytes} :
    fs.follow l (names ++ names') = .ok l' ↔
      ∃ m, fs.follow l names = .ok m ∧ fs.follow m names' = .ok l' := by
  induction names generalizing l with
  | nil => simp [follow]
  | cons n names ih =>
    simp only [List.cons_append, follow_cons_eq_ok_iff, ih]
    constructor
    · rintro ⟨m, hm, k, hk, hl⟩
      exact ⟨k, ⟨m, hm, hk⟩, hl⟩
    · rintro ⟨k, ⟨m, hm, hk⟩, hl⟩
      exact ⟨m, hm, k, hk, hl⟩

theorem follow_of_keepsDirectories (h : fs.KeepsDirectories fs') {names : List Bytes}
    (hl : fs.follow l names = .ok l') : fs'.follow l names = .ok l' := by
  induction names generalizing l with
  | nil => exact hl
  | cons n names ih =>
    obtain ⟨m, hm, hl⟩ := follow_cons_eq_ok_iff.mp hl
    obtain ⟨hdir, hm⟩ := step_eq_ok_iff.mp hm
    exact follow_cons_eq_ok_iff.mpr ⟨m, step_eq_ok_iff.mpr ⟨h l hdir, hm⟩, ih hl⟩

theorem follow_eq_of_notMem {names : List Bytes} (hdots : [46, 46] ∉ names)
    (hl : fs.follow l names = .ok l') : l' = ⟨l.base, l.names ++ names⟩ := by
  induction names generalizing l with
  | nil =>
    rw [follow, Except.ok.injEq] at hl
    simp [← hl]
  | cons n names ih =>
    obtain ⟨m, hm, hl⟩ := follow_cons_eq_ok_iff.mp hl
    rw [List.mem_cons, not_or] at hdots
    obtain ⟨-, ⟨rfl, -⟩ | ⟨-, -, rfl⟩⟩ := step_eq_ok_iff.mp hm
    · exact absurd rfl hdots.1
    · rw [ih hdots.2 hl]
      simp [Location.child]

theorem follow_with_clock (fs : FileSystem) (c : Nat) (l : Location) (names : List Bytes) :
    follow { fs with clock := c } l names = fs.follow l names := by
  induction names generalizing l with
  | nil => rfl
  | cons n names ih =>
    rw [follow, follow]
    change (fs.step l n >>= fun m => follow { fs with clock := c } m names) = _
    simp only [ih]

/-- Time does not change where a path leads. -/
@[simp] theorem locate_with_clock (fs : FileSystem) (c : Nat) (p : FilePath) :
    locate { fs with clock := c } p = fs.locate p := by
  unfold locate
  simp only [follow_with_clock]

theorem locate_eq_ok_iff {p : FilePath} :
    fs.locate p = .ok l ↔ p.IsUsable ∧ fs.follow p.start p.nameBytes = .ok l := by
  unfold locate FilePath.IsUsable
  cases hb : p.bytes? with
  | error f => simp
  | ok b =>
    by_cases hlen : b.length ≤ maxPathBytes
    · cases hf : fs.follow p.start p.nameBytes <;>
        simp [hlen, Nat.not_lt.mpr hlen]
    · simp [hlen,
        Nat.lt_of_not_le hlen]

theorem locate_of_keepsDirectories (h : fs.KeepsDirectories fs') {p : FilePath}
    (hl : fs.locate p = .ok l) : fs'.locate p = .ok l := by
  rw [locate_eq_ok_iff] at hl ⊢
  exact ⟨hl.1, follow_of_keepsDirectories h hl.2⟩

theorem file?_eq_some_iff {p : FilePath} {c : Bytes} {s : Nat} : fs.file? p = some (c, s) ↔
    ∃ l, fs.locate p = .ok l ∧ fs.lookup l = some (.file c s) := by
  unfold file? find?
  cases hl : fs.locate p with
  | error f => simp
  | ok l =>
    rcases hlook : fs.lookup l with _ | ⟨c, s⟩ | _ <;>
      simp [hlook]

theorem hasDirectory_iff {p : FilePath} : fs.hasDirectory p = true ↔
    ∃ l, fs.locate p = .ok l ∧ fs.lookup l = some .directory := by
  unfold hasDirectory find?
  cases hl : fs.locate p with
  | error f => simp
  | ok l =>
    rcases hlook : fs.lookup l with _ | ⟨c, s⟩ | _ <;>
      simp [hlook]

/-! ## Trees -/

theorem isTree_empty : ({} : FileSystem).IsTree := by
  intro l hl
  by_cases hn : l.names = []
  · obtain ⟨base, names⟩ := l
    subst hn
    cases base <;> rfl
  · rw [lookup_of_ne_nil hn] at hl
    exact absurd hl (by simp)

theorem IsTree.put (h : fs.IsTree) (hl : fs.lookup l = none)
    (hparent : fs.lookup l.parent = some .directory) (e : Entry) : (fs.put l e).IsTree := by
  intro l' hl'
  refine extends_put hl e l'.parent .directory ?_
  rw [lookup_put (names_ne_nil_of_none hl)] at hl'
  by_cases heq : l' = l
  · rw [heq, hparent]
  · rw [if_neg heq] at hl'
    exact h l' hl'

theorem IsTree.putFile (h : fs.IsTree) (hl : fs.lookup l = none)
    (hparent : fs.lookup l.parent = some .directory) (content : Bytes) :
    (fs.putFile l content).IsTree := h.put hl hparent _

/-- Whatever lies below a place makes it a directory. -/
theorem IsTree.lookup_of_below (h : fs.IsTree) {n : Bytes} {names : List Bytes}
    (hl : (fs.lookup ⟨l.base, l.names ++ n :: names⟩).isSome) :
    fs.lookup l = some .directory := by
  induction names using List.reverseRecOn with
  | nil =>
    have := h _ hl
    rwa [show (⟨l.base, l.names ++ [n]⟩ : Location) = l.child n from rfl,
      Location.parent_child] at this
  | append_singleton names m ih =>
    refine ih ?_
    have := h _ hl
    rw [show (⟨l.base, l.names ++ n :: (names ++ [m])⟩ : Location) =
      Location.child ⟨l.base, l.names ++ n :: names⟩ m by simp [Location.child],
      Location.parent_child] at this
    rw [this]
    rfl

/-- **In a tree, steps that go down reach whatever exists**, provided that the names are ones that
the system takes; that they are so is seen from another state. -/
theorem IsTree.follow (h : fs.IsTree) {names : List Bytes} (hdots : [46, 46] ∉ names)
    (hl' : (fs.lookup l').isSome) (hf : fs'.follow l names = .ok l') :
    fs.follow l names = .ok l' := by
  induction names generalizing l with
  | nil => exact hf
  | cons n names ih =>
    have hl := follow_eq_of_notMem hdots hf
    obtain ⟨m, hm, hf⟩ := follow_cons_eq_ok_iff.mp hf
    have hdir : fs.lookup l = some .directory := h.lookup_of_below (hl ▸ hl')
    refine follow_cons_eq_ok_iff.mpr ⟨m, ?_, ih (fun hn => hdots (List.mem_cons_of_mem n hn)) hf⟩
    exact step_eq_ok_iff.mpr ⟨hdir, (step_eq_ok_iff.mp hm).2⟩

/-- The same for a path that goes on down from a directory: the way to the directory must not go
up, unless it was open before. -/
theorem IsTree.locate (h : fs.IsTree) (hkeep : fs.KeepsDirectories fs') {d : FilePath}
    {steps : List Text} (hd : ¬ d.Climbs ∨ ∃ m, fs.follow d.start d.nameBytes = .ok m)
    (hsteps : (".." : Text) ∉ steps) (hl : (fs.lookup l).isSome)
    (hloc : fs'.locate { d with names := d.names ++ steps } = .ok l) :
    fs.locate { d with names := d.names ++ steps } = .ok l := by
  rw [locate_eq_ok_iff] at hloc ⊢
  obtain ⟨husable, hfollow⟩ := hloc
  refine ⟨husable, ?_⟩
  rcases hd with hd | ⟨m, hm⟩
  · refine h.follow (FilePath.dots_notMem_nameBytes fun hc => ?_) hl hfollow
    exact (List.mem_append.mp hc).elim hd hsteps
  · rw [FilePath.nameBytes_append] at hfollow ⊢
    obtain ⟨m', hm', hdown⟩ := follow_append_eq_ok_iff.mp hfollow
    have heq : m' = m := Except.ok.inj (hm'.symm.trans (follow_of_keepsDirectories hkeep hm))
    subst heq
    refine follow_append_eq_ok_iff.mpr ⟨m', hm, h.follow ?_ hl hdown⟩
    exact FilePath.dots_notMem_nameBytes (p := ⟨d.root, steps⟩) hsteps

theorem IsTree.erase_putFile (h : fs.IsTree) (hl : fs.lookup l = none) (content : Bytes) :
    (fs.putFile l content).erase l = { fs with clock := fs.clock + 1 } := by
  have hne : l.names ≠ [] := names_ne_nil_of_none hl
  have hkeep : ∀ x ∈ fs.entries, (l.below? x.1).isNone = true := by
    intro x hx
    cases hb : l.below? x.1 with
    | none => rfl
    | some names =>
      have hx1 := Location.below?_eq_some_iff.mp hb
      have hsome : (fs.lookup x.1).isSome := by
        rw [lookup_of_ne_nil (by rw [hx1]; simp [hne]), List.lookup_isSome_iff]
        exact ⟨x, hx, beq_self_eq_true _⟩
      rw [hx1] at hsome
      cases names with
      | nil =>
        rw [List.append_nil, hl] at hsome
        exact absurd hsome Bool.false_ne_true
      | cons n names => rw [h.lookup_of_below hsome] at hl; exact nomatch hl
  rw [putFile_of_none hl, erase]
  simp only [List.filter_append, List.filter_eq_self.mpr hkeep]
  simp [Location.below?]

end FileSystem

end ThemeForge

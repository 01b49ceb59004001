import ThemeForge.Files.Create
import ThemeForge.Proofs.Files.Tree

/-!
# Files over time

A file is told by its stamp from those that were at its place before.

* `Location.go`, `FileSystem.lookup_of_file?`: the one place that a path can lead to, whatever is on
  the way;
* `FileSystem.IsDated`: every file was written before the next one will be;
* `FileSystem.Later`: what is at its old place with its old stamp is unchanged;
* `FileSystem.IsDated.installFile`, `FileSystem.later_installFile`, `FileSystem.IsDated.uninstall`,
  `FileSystem.later_uninstall`: writing and removing.
-/

namespace ThemeForge

/-- The place that names lead to, if they lead anywhere. -/
def Location.go (l : Location) (names : List Bytes) : Location :=
  names.foldl (fun l n => if n = [46, 46] then l.parent else l.child n) l

namespace FileSystem

variable {fs fs' fs'' : FileSystem} {l l' : Location} {content : Bytes} {stamp : Nat}

/-! ## The place of a path -/

theorem go_of_follow {names : List Bytes} (h : fs.follow l names = .ok l') : l.go names = l' := by
  induction names generalizing l with
  | nil => exact Except.ok.inj h
  | cons n names ih =>
    obtain ⟨m, hm, h⟩ := follow_cons_eq_ok_iff.mp h
    obtain ⟨-, ⟨hn, rfl⟩ | ⟨hn, -, rfl⟩⟩ := step_eq_ok_iff.mp hm
    · rw [Location.go, List.foldl_cons, if_pos hn]
      exact ih h
    · rw [Location.go, List.foldl_cons, if_neg hn]
      exact ih h

theorem lookup_of_file? {p : FilePath} (h : fs.file? p = some (content, stamp)) :
    fs.lookup (p.start.go p.nameBytes) = some (.file content stamp) := by
  obtain ⟨l, hloc, hlook⟩ := file?_eq_some_iff.mp h
  rw [go_of_follow (locate_eq_ok_iff.mp hloc).2, hlook]

/-! ## Stamps -/

/-- The stamp of the next file is a new one. -/
def IsDated (fs : FileSystem) : Prop :=
  ∀ l content stamp, fs.lookup l = some (.file content stamp) → stamp < fs.clock

/-- Files that came since bear later stamps. -/
structure Later (fs fs' : FileSystem) : Prop where
  clock_le : fs.clock ≤ fs'.clock
  old : ∀ l content stamp, fs'.lookup l = some (.file content stamp) → stamp < fs.clock →
    fs.lookup l = some (.file content stamp)

theorem isDated_empty : ({} : FileSystem).IsDated := by
  intro l content stamp h
  by_cases hn : l.names = []
  · rw [lookup_of_nil hn] at h
    exact nomatch h
  · rw [lookup_of_ne_nil hn] at h
    exact nomatch h

theorem Later.refl (fs : FileSystem) : fs.Later fs := ⟨Nat.le_refl _, fun _ _ _ hfile _ => hfile⟩

/-! ## Writing and removing -/

theorem installParents_file (fs : FileSystem) (base : Base) (names : List Bytes) :
    (fs.installParents base names).clock = fs.clock ∧ ∀ l content stamp,
      (fs.installParents base names).lookup l = some (.file content stamp) →
        fs.lookup l = some (.file content stamp) := by
  unfold installParents
  generalize List.range names.length = depths
  induction depths generalizing fs with
  | nil => exact ⟨rfl, fun _ _ _ => id⟩
  | cons k depths ih =>
    rw [List.foldl_cons]
    simp only
    split
    · exact ih fs
    · rename_i hnone
      rw [Bool.not_eq_true, Option.isSome_eq_false_iff, Option.isNone_iff_eq_none] at hnone
      obtain ⟨hclock, hfile⟩ := ih (fs.put ⟨base, names.take k⟩ .directory)
      refine ⟨hclock, fun l content stamp h => ?_⟩
      have hput := hfile l content stamp h
      rw [lookup_put (names_ne_nil_of_none hnone)] at hput
      split at hput
      · exact nomatch hput
      · exact hput

/-- After a file was written at a path, the files are this one and ones that were there before. -/
theorem installFile_file {p : FilePath} {bytes : Bytes}
    (h : (fs.installFile p bytes).lookup l = some (.file content stamp)) :
    stamp = fs.clock ∨ fs.lookup l = some (.file content stamp) := by
  obtain ⟨hclock, hfile⟩ := installParents_file fs p.start.base p.nameBytes
  have hn : l.names ≠ [] := by
    intro hn
    rw [lookup_of_nil hn] at h
    exact nomatch h
  change ((fs.installParents _ _).put _ _).lookup l = _ at h
  rw [lookup_put_of_ne_nil hn] at h
  split at h
  · cases h
    exact .inl hclock
  · exact .inr (hfile l content stamp h)

theorem clock_installFile (p : FilePath) (bytes : Bytes) :
    (fs.installFile p bytes).clock = fs.clock + 1 :=
  congrArg (· + 1) (installParents_file fs p.start.base p.nameBytes).1

theorem IsDated.installFile (h : fs.IsDated) (p : FilePath) (bytes : Bytes) :
    (fs.installFile p bytes).IsDated := by
  intro l content stamp hfile
  rw [clock_installFile]
  rcases installFile_file hfile with rfl | hold
  · exact Nat.lt_succ_self fs.clock
  · exact Nat.lt_succ_of_lt (h l content stamp hold)

theorem later_installFile (fs : FileSystem) (p : FilePath) (bytes : Bytes) :
    fs.Later (fs.installFile p bytes) where
  clock_le := by
    rw [clock_installFile]
    exact Nat.le_succ fs.clock
  old l content stamp hfile hlt := by
    rcases installFile_file hfile with rfl | hold
    · exact absurd hlt (Nat.lt_irrefl _)
    · exact hold

theorem uninstall_file {p : FilePath} {e : Entry}
    (h : (fs.uninstall p).lookup l = some e) : fs.lookup l = some e := by
  unfold uninstall erase at h
  by_cases hn : l.names = []
  · rw [lookup_of_nil hn] at h ⊢
    exact h
  · rw [lookup_of_ne_nil hn] at h ⊢
    rw [lookup_filter_key (fun place => (Location.below? _ place).isNone)] at h
    split at h
    · exact h
    · exact nomatch h

theorem IsDated.uninstall (h : fs.IsDated) (p : FilePath) : (fs.uninstall p).IsDated :=
  fun l content stamp hfile => h l content stamp (uninstall_file hfile)

theorem later_uninstall (fs : FileSystem) (p : FilePath) : fs.Later (fs.uninstall p) :=
  ⟨Nat.le_refl _, fun _ _ _ hfile _ => uninstall_file hfile⟩

end FileSystem

end ThemeForge

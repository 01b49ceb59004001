import ThemeForge.Files.Change
import ThemeForge.Files.Create
import ThemeForge.Proofs.Files.Tree

/-!
# What making directories and files changes

Making a directory adds directories on its path and nothing else, whether it succeeds or not. A new
file comes where nothing was.

* `FileSystem.OnPath`, `FileSystem.Grows`: directories that are added on a path;
* **`FileSystem.grows_makeDirectories`**, `FileSystem.makeDirectories_eq_self`;
* `FileSystem.Opens`: a directory that has been made, and stays open;
* `FileSystem.Grows.lookup_child`: a path that does not go up adds nothing to where it leads;
* `FileSystem.createFile_eq_ok_iff`, `FileSystem.createFile_child`: new files;
* `FileSystem.removeFile_createFile`: a new file that is removed;
* `FileSystem.exists_of_locate_child`: the way to an entry of a directory;
* `FileSystem.Gains`: the missing directories on a path and one file more;
* `FileSystem.SameContent`: states that differ in stamps only;
* `FileSystem.SameFiles`, `FileSystem.AddsFile`: what becomes of regular files.
-/

namespace ThemeForge.FileSystem

variable {fs fs' fs'' made : FileSystem} {p : FilePath} {l : Location}

/-! ## Directories -/

/-- Some beginning of the path leads to the place. -/
def OnPath (fs : FileSystem) (p : FilePath) (l : Location) : Prop :=
  ∃ n, fs.locate (p.upTo n) = .ok l

theorem OnPath.of_keepsDirectories (h : fs.KeepsDirectories fs') (hl : fs.OnPath p l) :
    fs'.OnPath p l :=
  hl.imp fun _ => locate_of_keepsDirectories h

/-- All that is added are directories on a path. -/
structure Grows (p : FilePath) (fs fs' : FileSystem) : Prop where
  keeps : fs.Extends fs'
  added : ∀ l e, fs.lookup l = none → fs'.lookup l = some e → e = .directory ∧ fs'.OnPath p l
  tree : fs.IsTree → fs'.IsTree

theorem Grows.refl (p : FilePath) (fs : FileSystem) : Grows p fs fs where
  keeps := .refl fs
  added l e h h' := by rw [h] at h'; exact nomatch h'
  tree := id

theorem Grows.trans (h : Grows p fs fs') (h' : Grows p fs' fs'') : Grows p fs fs'' where
  keeps := h.keeps.trans h'.keeps
  added l e hl hl'' := by
    cases hl' : fs'.lookup l with
    | none => exact h'.added l e hl' hl''
    | some e' =>
      have heq := h'.keeps l e' hl'
      rw [hl'', Option.some.injEq] at heq
      obtain ⟨hdir, hpath⟩ := h.added l e' hl hl'
      exact ⟨heq.trans hdir, hpath.of_keepsDirectories h'.keeps.keepsDirectories⟩
  tree := h'.tree ∘ h.tree

/-- Time may pass. -/
theorem Grows.with_clock (h : Grows p fs fs') (n : Nat) : Grows p fs { fs' with clock := n } where
  keeps := h.keeps
  added l e hl he := by
    obtain ⟨hdir, k, hk⟩ := h.added l e hl he
    exact ⟨hdir, k, by rw [locate_with_clock, hk]⟩
  tree ht := h.tree ht

/-- Files are neither added nor removed. -/
theorem Grows.lookup_file_iff (h : Grows p fs fs') {c : Bytes} {s : Nat} :
    fs'.lookup l = some (.file c s) ↔ fs.lookup l = some (.file c s) := by
  refine ⟨fun hl' => ?_, h.keeps l _⟩
  cases hl : fs.lookup l with
  | none => exact nomatch (h.added l _ hl hl').1
  | some e => rw [← hl', h.keeps l e hl]

theorem makeDirectory_eq_ok_iff : fs.makeDirectory p = .ok fs' ↔ ∃ l, fs.locate p = .ok l ∧
    fs.lookup l = none ∧ fs.lookup l.parent = some .directory ∧ fs' = fs.put l .directory := by
  unfold makeDirectory isDirectory
  cases hl : fs.locate p with
  | error f => simp
  | ok l =>
    cases hlook : fs.lookup l with
    | some e => simp [hlook]
    | none =>
      by_cases hp : fs.lookup l.parent = some .directory
      · simp only [Except.ok_bind, hlook, hp, beq_self_eq_true, if_true, Except.pure_eq_ok,
          Except.ok.injEq, exists_eq_left', true_and]
        exact eq_comm
      · simp [hlook, hp]

theorem grows_makeDirectory {n : Nat} (h : fs.makeDirectory (p.upTo n) = .ok fs') :
    Grows p fs fs' := by
  obtain ⟨l, hloc, hnone, hparent, rfl⟩ := makeDirectory_eq_ok_iff.mp h
  have hl : l.names ≠ [] := names_ne_nil_of_none hnone
  refine ⟨extends_put hnone _, fun l' e hl' he => ?_, fun ht => ht.put hnone hparent _⟩
  rw [lookup_put hl] at he
  by_cases heq : l' = l
  · rw [if_pos heq, Option.some.injEq] at he
    refine ⟨he.symm, n, ?_⟩
    rw [heq]
    exact locate_of_keepsDirectories (extends_put hnone _).keepsDirectories hloc
  · rw [if_neg heq, hl'] at he
    exact nomatch he

theorem hasDirectory_makeDirectory (h : fs.makeDirectory p = .ok fs') :
    fs'.hasDirectory p = true := by
  obtain ⟨l, hloc, hnone, -, rfl⟩ := makeDirectory_eq_ok_iff.mp h
  have hl : l.names ≠ [] := names_ne_nil_of_none hnone
  refine hasDirectory_iff.mpr ⟨l, ?_, by rw [lookup_put hl, if_pos rfl]⟩
  exact locate_of_keepsDirectories (extends_put hnone _).keepsDirectories hloc

theorem hasDirectory_of_settle {f : PathFault} (h : fs.settle p f = .ok ()) :
    fs.hasDirectory p = true := by
  unfold settle at h
  cases f with
  | system e =>
    by_cases hd : fs.hasDirectory p = true
    · exact hd
    · simp [hd] at h
  | _ => exact nomatch h

theorem grows_makeDirectoriesTo (p : FilePath) (n : Nat) (fs : FileSystem) :
    Grows p fs (makeDirectoriesTo p n fs).1 ∧
    ((makeDirectoriesTo p n fs).2 = .ok () →
      (makeDirectoriesTo p n fs).1.hasDirectory (p.upTo n) = true) := by
  induction n generalizing fs with
  | zero =>
    rw [makeDirectoriesTo]
    split
    · rename_i h
      exact ⟨grows_makeDirectory h, fun _ => hasDirectory_makeDirectory h⟩
    · exact ⟨.refl p fs, (nomatch ·)⟩
    · exact ⟨.refl p fs, hasDirectory_of_settle⟩
  | succ n ih =>
    rw [makeDirectoriesTo]
    split
    · rename_i h
      exact ⟨grows_makeDirectory h, fun _ => hasDirectory_makeDirectory h⟩
    · -- the directories above come first, and what they leave is extended
      have hup := (ih fs).1
      generalize makeDirectoriesTo p n fs = result at hup
      obtain ⟨fs', f | _⟩ := result
      · exact ⟨hup, (nomatch ·)⟩
      · simp only
        split
        · rename_i h
          exact ⟨hup.trans (grows_makeDirectory h), fun _ => hasDirectory_makeDirectory h⟩
        · exact ⟨hup, hasDirectory_of_settle⟩
    · exact ⟨.refl p fs, hasDirectory_of_settle⟩

/-- **Making a directory adds directories on its path and nothing else.** -/
theorem grows_makeDirectories (fs : FileSystem) (p : FilePath) :
    Grows p fs (fs.makeDirectories p).1 :=
  (grows_makeDirectoriesTo p p.names.length fs).1

theorem grows_of_makeDirectories {o : Except DirectoryFault Unit}
    (h : fs.makeDirectories p = (made, o)) : Grows p fs made := by
  have hgrows := grows_makeDirectories fs p
  rwa [h] at hgrows

theorem hasDirectory_makeDirectories (h : (fs.makeDirectories p).2 = .ok ()) :
    (fs.makeDirectories p).1.hasDirectory p = true := by
  have := (grows_makeDirectoriesTo p p.names.length fs).2 h
  rwa [FilePath.upTo_length] at this

theorem makeDirectories_eq_self (h : fs.hasDirectory p = true) :
    fs.makeDirectories p = (fs, .ok ()) := by
  obtain ⟨l, hloc, hdir⟩ := hasDirectory_iff.mp h
  have hrefused : fs.makeDirectory (p.upTo p.names.length) = .error (.system .exists) := by
    rw [FilePath.upTo_length, makeDirectory, hloc]
    simp [hdir]
  unfold makeDirectories makeDirectoriesTo
  rw [hrefused]
  simp only [settle, FilePath.upTo_length, h, if_true]

/-- Making the directory at a path leads to `l`; the files are then `made`. -/
structure Opens (p : FilePath) (fs made : FileSystem) (l : Location) : Prop where
  makes : fs.makeDirectories p = (made, .ok ())
  locate : made.locate p = .ok l
  lookup : made.lookup l = some .directory

theorem exists_opens (h : fs.makeDirectories p = (made, .ok ())) : ∃ l, Opens p fs made l := by
  have hdir := hasDirectory_makeDirectories (show (fs.makeDirectories p).2 = .ok () by rw [h])
  rw [h] at hdir
  obtain ⟨l, hloc, hlook⟩ := hasDirectory_iff.mp hdir
  exact ⟨l, h, hloc, hlook⟩

/-- Once made, the directory stays open while the directories are kept. -/
theorem Opens.again (h : Opens p fs made l) (hkeep : made.KeepsDirectories fs') :
    Opens p fs' fs' l := by
  have hloc := locate_of_keepsDirectories hkeep h.locate
  have hlook := hkeep l h.lookup
  exact ⟨makeDirectories_eq_self (hasDirectory_iff.mpr ⟨l, hloc, hlook⟩), hloc, hlook⟩

/-- A path that does not go up adds nothing to the directory it leads to. -/
theorem Grows.lookup_child (h : Grows p fs fs') (hp : ¬ p.Climbs) (hl : fs'.locate p = .ok l)
    (n : Bytes) : fs'.lookup (l.child n) = fs.lookup (l.child n) := by
  cases hn : fs.lookup (l.child n) with
  | some e => exact h.keeps _ e hn
  | none =>
    cases he : fs'.lookup (l.child n) with
    | none => rfl
    | some e =>
      obtain ⟨-, k, hk⟩ := h.added _ e hn he
      have hlong := follow_eq_of_notMem (FilePath.dots_notMem_nameBytes fun hc => hp hc.of_upTo)
        (locate_eq_ok_iff.mp hk).2
      have hshort := follow_eq_of_notMem (FilePath.dots_notMem_nameBytes hp)
        (locate_eq_ok_iff.mp hl).2
      have hlen := congrArg (fun l => l.names.length) hlong
      have hlen' := congrArg (fun l => l.names.length) hshort
      have hle := (p.nameBytes_upTo_isPrefix k).length_le
      rw [FilePath.start_upTo] at hlen
      simp only [Location.child, List.length_append, List.length_singleton] at hlen hlen'
      omega

/-! ## Files -/

theorem createFile_eq_ok_iff {content : Bytes} : fs.createFile p content = .ok fs' ↔
    ∃ l, fs.locate p = .ok l ∧ fs.lookup l = none ∧ fs.lookup l.parent = some .directory ∧
      fs' = fs.putFile l content := by
  unfold createFile isDirectory
  cases hl : fs.locate p with
  | error f => simp
  | ok l =>
    cases hlook : fs.lookup l with
    | some e => simp [hlook]
    | none =>
      by_cases hp : fs.lookup l.parent = some .directory
      · simp only [Except.ok_bind, hlook, hp, beq_self_eq_true, if_true, Except.pure_eq_ok,
          Except.ok.injEq, exists_eq_left', true_and]
        exact eq_comm
      · simp [hlook, hp]

/-- A new file in a tree leaves no trace when it is removed. -/
theorem removeFile_createFile (ht : fs.IsTree) {content : Bytes}
    (h : fs.createFile p content = .ok fs') :
    fs'.removeFile p = { fs with clock := fs.clock + 1 } := by
  obtain ⟨l, hloc, hnone, -, rfl⟩ := createFile_eq_ok_iff.mp h
  rw [removeFile, locate_of_keepsDirectories (extends_putFile hnone _).keepsDirectories hloc]
  exact ht.erase_putFile hnone content

section Child

variable {n : Text} {b : Bytes} (hl : fs.locate p = .ok l) (hdir : fs.lookup l = some .directory)
  (hn : FilePath.IsEntryName n b)
include hl hdir hn

theorem locate_child (h : (p.child n).IsUsable) : fs.locate (p.child n) = .ok (l.child b) := by
  refine locate_eq_ok_iff.mpr ⟨h, ?_⟩
  rw [p.nameBytes_child hn.encoded]
  refine follow_append_eq_ok_iff.mpr ⟨l, (locate_eq_ok_iff.mp hl).2, ?_⟩
  refine follow_cons_eq_ok_iff.mpr ⟨l.child b, ?_, rfl⟩
  exact step_eq_ok_iff.mpr ⟨hdir, .inr ⟨hn.ne_dots, hn.length_le, rfl⟩⟩

theorem createFile_child (h : (p.child n).IsUsable) (content : Bytes) :
    fs.createFile (p.child n) content =
      if fs.lookup (l.child b) = none then .ok (fs.putFile (l.child b) content)
      else .error (.system .exists) := by
  have hloc := locate_child hl hdir hn h
  cases hlook : fs.lookup (l.child b) with
  | none =>
    rw [if_pos rfl]
    exact createFile_eq_ok_iff.mpr ⟨_, hloc, hlook, by rw [Location.parent_child, hdir], rfl⟩
  | some e =>
    rw [if_neg (nomatch ·), createFile, hloc]
    simp [hlook]

omit hdir in
theorem createFile_child_of_not_isUsable (h : ¬ (p.child n).IsUsable) (content : Bytes) :
    fs.createFile (p.child n) content = .error (.system .nameTooLong) := by
  obtain ⟨bytes, hbytes, -⟩ := (locate_eq_ok_iff.mp hl).1
  obtain ⟨bytes', hbytes'⟩ := FilePath.exists_bytes?_child ⟨bytes, hbytes⟩ hn.nameable
  have hlong : ¬ bytes'.length ≤ maxPathBytes := fun hle => h ⟨bytes', hbytes', hle⟩
  rw [createFile, locate, hbytes']
  simp [Nat.lt_of_not_le hlong]

end Child

/-- A path to an entry leads there through its directory, one step down, or up from it. -/
theorem exists_of_locate_child {n : Text} (h : fs.locate (p.child n) = .ok l) :
    ∃ m b, n.encodeEscaped? = .ok b ∧ fs.locate p = .ok m ∧ fs.lookup m = some .directory ∧
      ((b = [46, 46] ∧ l = m.parent) ∨ (b ≠ [46, 46] ∧ l = m.child b)) := by
  obtain ⟨husable, hfollow⟩ := locate_eq_ok_iff.mp h
  obtain ⟨b, hb⟩ := FilePath.exists_encodeEscaped?_of_child (husable.imp fun _ => And.left)
  rw [p.nameBytes_child hb] at hfollow
  obtain ⟨m, hm, hlast⟩ := follow_append_eq_ok_iff.mp hfollow
  obtain ⟨k, hk, hnil⟩ := follow_cons_eq_ok_iff.mp hlast
  cases hnil
  obtain ⟨hdir, hstep⟩ := step_eq_ok_iff.mp hk
  refine ⟨m, b, hb, locate_eq_ok_iff.mpr ⟨husable.of_append, hm⟩, hdir, ?_⟩
  exact hstep.imp id fun ⟨hne, _, hl⟩ => ⟨hne, hl⟩

/-! ## What a new file adds -/

/-- All on the way to a directory are directories. -/
theorem OnPath.lookup {place : Location} (h : fs.OnPath p place) (hl : fs.locate p = .ok l)
    (hdir : fs.lookup l = some .directory) : fs.lookup place = some .directory := by
  obtain ⟨k, hk⟩ := h
  obtain ⟨rest, hrest⟩ := p.nameBytes_upTo_isPrefix k
  have hshort := (locate_eq_ok_iff.mp hk).2
  have hlong := (locate_eq_ok_iff.mp hl).2
  rw [← hrest] at hlong
  obtain ⟨m, hm, hdown⟩ := follow_append_eq_ok_iff.mp hlong
  cases hm.symm.trans hshort
  cases rest with
  | nil =>
    cases hdown
    exact hdir
  | cons b rest =>
    obtain ⟨_, hstep, -⟩ := follow_cons_eq_ok_iff.mp hdown
    exact (step_eq_ok_iff.mp hstep).1

/-- **What was there, the missing directories on a path, and one file more**, at a place where
nothing was. -/
structure Gains (p : FilePath) (l : Location) (content : Bytes) (fs fs' : FileSystem) : Prop where
  keeps : fs.Extends fs'
  free : fs.lookup l = none
  file : ∃ stamp, fs'.lookup l = some (.file content stamp)
  directories : ∀ place, fs'.OnPath p place → fs'.lookup place = some .directory
  others : ∀ place, place ≠ l → ¬ fs'.OnPath p place → fs'.lookup place = fs.lookup place

theorem Grows.gains_putFile {m : Location} (h : Grows p fs made) (hm : made.locate p = .ok m)
    (hdir : made.lookup m = some .directory) (hnone : made.lookup l = none) (content : Bytes) :
    Gains p l content fs (made.putFile l content) := by
  have hl := names_ne_nil_of_none hnone
  have hkeep := extends_putFile hnone content
  have hm' := locate_of_keepsDirectories hkeep.keepsDirectories hm
  refine ⟨h.keeps.trans hkeep, h.keeps.lookup_eq_none hnone, ⟨made.clock, ?_⟩,
    fun place hpath => hpath.lookup hm' (hkeep m _ hdir), fun place hne hpath => ?_⟩
  · rw [lookup_putFile hl, if_pos rfl]
  · rw [lookup_putFile hl, if_neg hne]
    cases hold : fs.lookup place with
    | some e => exact h.keeps place e hold
    | none =>
      cases hnew : made.lookup place with
      | none => rfl
      | some e =>
        have hon := (h.added place e hold hnew).2
        exact absurd (hon.of_keepsDirectories hkeep.keepsDirectories) hpath

/-! ## Content -/

/-- The same directories, and the same files but for their stamps. -/
def SameContent (fs fs' : FileSystem) : Prop :=
  ∀ l, change? (fs.lookup l) (fs'.lookup l) = none

theorem change?_self (e : Option Entry) : change? e e = none := by
  rcases e with _ | ⟨c, s⟩ | _ <;> simp [change?]

theorem change?_file (c : Bytes) (s s' : Nat) :
    change? (some (.file c s)) (some (.file c s')) = none := if_pos rfl

theorem sameContent_putFile (h : ∀ l, fs.lookup l = fs'.lookup l) (hl : l.names ≠ [])
    (content : Bytes) : SameContent (fs.putFile l content) (fs'.putFile l content) := by
  intro l'
  rw [lookup_putFile hl, lookup_putFile hl, h]
  by_cases heq : l' = l
  · rw [if_pos heq, if_pos heq, change?_file]
  · rw [if_neg heq, if_neg heq, change?_self]

/-! ## Regular files -/

/-- The same regular files, with the same content; none has been written again. -/
def SameFiles (fs fs' : FileSystem) : Prop :=
  ∀ l c s, fs'.lookup l = some (.file c s) ↔ fs.lookup l = some (.file c s)

/-- The same regular files but for one more, which the path leads to. -/
def AddsFile (fs fs' : FileSystem) (p : FilePath) : Prop :=
  ∃ l c s, fs'.locate p = .ok l ∧ fs.lookup l = none ∧ fs'.lookup l = some (.file c s) ∧
    ∀ l', l' ≠ l → ∀ c' s', fs'.lookup l' = some (.file c' s') ↔ fs.lookup l' = some (.file c' s')

theorem SameFiles.refl (fs : FileSystem) : SameFiles fs fs := fun _ _ _ => .rfl

theorem SameFiles.not_addsFile (h : SameFiles fs fs') : ¬ AddsFile fs fs' p := by
  rintro ⟨l, c, s, -, hnone, hfile, -⟩
  rw [h, hnone] at hfile
  exact nomatch hfile

theorem Grows.sameFiles (h : Grows p fs fs') : SameFiles fs fs' := fun _ _ _ => h.lookup_file_iff

theorem Grows.addsFile_putFile {q : FilePath} (h : Grows p fs made) (hloc : made.locate q = .ok l)
    (hnone : made.lookup l = none) (content : Bytes) :
    AddsFile fs (made.putFile l content) q := by
  have hl := names_ne_nil_of_none hnone
  refine ⟨l, content, made.clock, ?_, h.keeps.lookup_eq_none hnone, ?_, fun l' hne c s => ?_⟩
  · exact locate_of_keepsDirectories (extends_putFile hnone content).keepsDirectories hloc
  · rw [lookup_putFile hl, if_pos rfl]
  · rw [lookup_putFile hl, if_neg hne, h.lookup_file_iff]

end ThemeForge.FileSystem

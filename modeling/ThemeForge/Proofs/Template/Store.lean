import ThemeForge.Proofs.Except
import ThemeForge.Proofs.Files.Create
import ThemeForge.Template.Store

/-!
# What a store finds

Keeping templates does not change what is found, and what is found depends on the user's files
alone.

* `TemplateStore.ofBytes?`, `TemplateStore.ofSource?`: the templates of a user's file and of a
  bundled source;
* `TemplateStore.Matches`: two stores, each over its own files, that find the same;
* **`TemplateStore.matches_get?`**, **`TemplateStore.matches_expand?`**: taking templates from a
  store leaves one that finds the same;
* `TemplateStore.Pins`: a template that is found whatever happens to the files;
* `TemplateStore.IsSettled`, `TemplateStore.userFile?_eq_of_extends`: what is added elsewhere is
  not found;
* `TemplateStore.Apart`, `TemplateStore.matches_of_apart`: new files apart from the user's;
* `TemplateStore.Reached`, `TemplateStore.Reached.find?_eq_load?`: without a user's file, the
  bundled template is found however the store has been used.
-/

namespace ThemeForge.TemplateStore

variable [Template.Engine] {s s' s'' : TemplateStore} {fs fs' fs'' : FileSystem} {n : Text}
  {k : KeptTemplate}

/-! ## What is found -/

/-- The template that the bytes of a user's file hold. -/
def ofBytes? (n : Text) (bytes : Bytes) : Except StoreFault Template := do
  let text ← (Utf8.decode? bytes).mapError .decoding
  (Template.compile? (some n) text.universalNewlines).mapError .ofLoad

/-- The template that the source of a bundled one holds. -/
def ofSource? (n source : Text) : Except StoreFault Template :=
  (Template.compile? (some n) source).mapError .ofLoad

theorem load?_of_file {bytes : Bytes} {stamp : Nat} (h : s.userFile? fs n = some (bytes, stamp)) :
    s.load? fs n = (ofBytes? n bytes).map fun t => ⟨some stamp, t⟩ := by
  rw [load?, h, ofBytes?]
  simp only
  cases (Utf8.decode? bytes).mapError StoreFault.decoding with
  | error f => rfl
  | ok text => cases Template.compile? (some n) text.universalNewlines <;> rfl

theorem load?_of_source {source : Text} (h : s.userFile? fs n = none)
    (hn : bundledSource? n = some source) :
    s.load? fs n = (ofSource? n source).map fun t => ⟨none, t⟩ := by
  rw [load?, h, hn, ofSource?]
  simp only
  cases Template.compile? (some n) source <;> rfl

theorem load?_of_none (h : s.userFile? fs n = none) (hn : bundledSource? n = none) :
    s.load? fs n = .error .notFound := by
  rw [load?, h, hn]

theorem ofSource?_ne_notFound (n source : Text) : ofSource? n source ≠ .error .notFound := by
  unfold ofSource?
  rcases Template.compile? (some n) source with (f | c) | t <;> exact (nomatch ·)

theorem ofBytes?_ne_notFound (n : Text) (bytes : Bytes) : ofBytes? n bytes ≠ .error .notFound := by
  unfold ofBytes?
  cases Utf8.decode? bytes with
  | error f => exact (nomatch ·)
  | ok text => exact ofSource?_ne_notFound n text.universalNewlines

theorem get?_snd (s : TemplateStore) (fs : FileSystem) (n : Text) :
    (s.get? fs n).2 = (s.find? fs n).map KeptTemplate.template := by
  rw [get?]
  cases s.find? fs n <;> rfl

/-- What a load gives: the template of the user's file, or the bundled one. -/
theorem load?_cases (h : s.load? fs n = .ok k) :
    (∃ bytes stamp t, s.userFile? fs n = some (bytes, stamp) ∧ ofBytes? n bytes = .ok t ∧
      k = ⟨some stamp, t⟩) ∨
    (s.userFile? fs n = none ∧ ∃ source t, bundledSource? n = some source ∧
      ofSource? n source = .ok t ∧ k = ⟨none, t⟩) := by
  rcases huser : s.userFile? fs n with _ | ⟨bytes, stamp⟩
  · cases hsource : bundledSource? n with
    | none =>
      rw [load?_of_none huser hsource] at h
      exact nomatch h
    | some source =>
      rw [load?_of_source huser hsource] at h
      obtain ⟨t, ht, rfl⟩ := Except.map_eq_ok_iff.mp h
      exact .inr ⟨rfl, source, t, rfl, ht, rfl⟩
  · rw [load?_of_file huser] at h
    obtain ⟨t, ht, rfl⟩ := Except.map_eq_ok_iff.mp h
    exact .inl ⟨bytes, stamp, t, rfl, ht, rfl⟩

/-- What is found was kept and is still fresh, or is loaded. -/
theorem find?_cases (h : s.find? fs n = .ok k) :
    (s.kept.lookup n = some k ∧ s.isFresh fs n k = true) ∨ s.load? fs n = .ok k := by
  unfold find? at h
  split at h
  · rename_i k' hk
    split at h
    · cases h
      exact .inl ⟨hk, ‹_›⟩
    · exact .inr h
  · exact .inr h

omit [Template.Engine] in
theorem lookup_keep (s : TemplateStore) (n : Text) (k : KeptTemplate) (m : Text) :
    (s.keep n k).kept.lookup m = if m = n then some k else s.kept.lookup m := by
  by_cases h : m = n
  · rw [if_pos h, h]
    exact List.lookup_cons_self
  · rw [if_neg h, keep, List.lookup_cons, beq_false_of_ne h]
    change (s.kept.filter fun e => e.1 != n).lookup m = _
    rw [lookup_filter_key (fun a => a != n), if_pos (bne_iff_ne.mpr h)]

/-- What is kept after a template was taken was kept before, or is what was loaded. -/
theorem lookup_get? {m : Text} (h : (s.get? fs m).1.kept.lookup n = some k) :
    s.kept.lookup n = some k ∨ (n = m ∧ s.load? fs n = .ok k) := by
  unfold get? at h
  cases hfound : s.find? fs m with
  | error f =>
    rw [hfound] at h
    exact .inl h
  | ok k' =>
    rw [hfound, lookup_keep] at h
    split at h
    · cases h
      subst ‹n = m›
      exact (find?_cases hfound).imp And.left fun hload => ⟨rfl, hload⟩
    · exact .inl h

/-- What taking one template preserves, taking several does. -/
theorem keepAll_of_get? {P : TemplateStore → Prop} (hget : ∀ s n, P s → P (s.get? fs n).1)
    (names : List Text) (h : P s) : P (s.keepAll fs names) := by
  induction names generalizing s with
  | nil => exact h
  | cons n names ih => exact ih (hget s n h)

theorem isFresh_of_load? (h : s.load? fs n = .ok k) : s.isFresh fs n k = true := by
  rcases load?_cases h with ⟨bytes, stamp, t, huser, -, rfl⟩ | ⟨-, source, t, -, -, rfl⟩
  · simp [isFresh, huser]
  · rfl

theorem isFresh_of_find? (h : s.find? fs n = .ok k) : s.isFresh fs n k = true := by
  rcases find?_cases h with ⟨-, hfresh⟩ | h
  · exact hfresh
  · exact isFresh_of_load? h

/-- A new store has nothing kept. -/
theorem find?_new (directory : Option Text) (fs : FileSystem) (n : Text) :
    (new directory).find? fs n = (new directory).load? fs n := rfl

/-! ## Finding the same -/

/-- Over their files, the two stores find the same. -/
structure Matches (s : TemplateStore) (fs : FileSystem) (s' : TemplateStore) (fs' : FileSystem) :
    Prop where
  directory : s'.directory = s.directory
  userFile? : ∀ n, s'.userFile? fs' n = s.userFile? fs n
  find? : ∀ n, s'.find? fs' n = s.find? fs n

theorem Matches.refl (s : TemplateStore) (fs : FileSystem) : Matches s fs s fs :=
  ⟨rfl, fun _ => rfl, fun _ => rfl⟩

theorem Matches.trans (h : Matches s fs s' fs') (h' : Matches s' fs' s'' fs'') :
    Matches s fs s'' fs'' where
  directory := h'.directory.trans h.directory
  userFile? n := (h'.userFile? n).trans (h.userFile? n)
  find? n := (h'.find? n).trans (h.find? n)

omit [Template.Engine] in
theorem userFile?_of_directory (h : s'.directory = s.directory) (fs : FileSystem) (n : Text) :
    s'.userFile? fs n = s.userFile? fs n := by
  unfold userFile? userPath?
  rw [h]

theorem load?_of_userFile? (h : s'.userFile? fs' n = s.userFile? fs n) :
    s'.load? fs' n = s.load? fs n := by
  unfold load?
  rw [h]

omit [Template.Engine] in
theorem isFresh_of_userFile? (h : s'.userFile? fs' n = s.userFile? fs n) (k : KeptTemplate) :
    s'.isFresh fs' n k = s.isFresh fs n k := by
  unfold isFresh
  rw [h]

/-- What is found depends on the user's files, not on the others. -/
theorem matches_of_userFile? (h : ∀ n, s.userFile? fs' n = s.userFile? fs n) :
    Matches s fs s fs' := by
  refine ⟨rfl, h, fun n => ?_⟩
  unfold find?
  rw [load?_of_userFile? (h n)]
  simp only [isFresh_of_userFile? (h n)]

theorem matches_keep (h : s.find? fs n = .ok k) : Matches s fs (s.keep n k) fs := by
  have huser (m : Text) : (s.keep n k).userFile? fs m = s.userFile? fs m :=
    userFile?_of_directory rfl fs m
  refine ⟨rfl, huser, fun m => ?_⟩
  by_cases hm : m = n
  · subst hm
    have hfresh := isFresh_of_find? h
    rw [h, find?, lookup_keep, if_pos rfl]
    simp only [isFresh_of_userFile? (huser m), hfresh, if_true]
  · rw [find?, find?, lookup_keep, if_neg hm, load?_of_userFile? (huser m)]
    simp only [isFresh_of_userFile? (huser m)]

/-- **Taking a template leaves a store that finds the same.** -/
theorem matches_get? (s : TemplateStore) (fs : FileSystem) (n : Text) :
    Matches s fs (s.get? fs n).1 fs := by
  unfold get?
  cases h : s.find? fs n with
  | ok k => exact matches_keep h
  | error f => exact .refl s fs

theorem matches_keepAll (fs : FileSystem) (names : List Text) (s : TemplateStore) :
    Matches s fs (s.keepAll fs names) fs :=
  keepAll_of_get? (P := fun s' => Matches s fs s' fs)
    (fun s' n h => h.trans (matches_get? s' fs n)) names (.refl s fs)

/-- **Expanding a template leaves a store that finds the same.** -/
theorem matches_expand? (s : TemplateStore) (fs : FileSystem) (t : Template)
    (values : List (Text × Value)) : Matches s fs (s.expand? fs t values).1 fs :=
  matches_keepAll fs _ s

theorem Matches.library (h : Matches s fs s' fs') : s'.library fs' = s.library fs := by
  funext n
  unfold TemplateStore.library
  rw [h.find? n]

theorem Matches.get? (h : Matches s fs s' fs') (n : Text) :
    (s'.get? fs' n).2 = (s.get? fs n).2 := by
  unfold TemplateStore.get?
  rw [h.find? n]
  cases s.find? fs n <;> rfl

/-! ## Templates that stay -/

/-- A template is kept that will not change. -/
def Pins (s : TemplateStore) (n : Text) (t : Template) : Prop :=
  s.kept.lookup n = some ⟨none, t⟩

theorem Pins.find? {t : Template} (h : s.Pins n t) (fs : FileSystem) :
    s.find? fs n = .ok ⟨none, t⟩ := by
  unfold TemplateStore.find?
  rw [h]
  rfl

theorem pins_get? {t : Template} (h : s.find? fs n = .ok ⟨none, t⟩) :
    (s.get? fs n).1.Pins n t := by
  unfold TemplateStore.get?
  rw [h, Pins, lookup_keep, if_pos rfl]

theorem Pins.get? {t : Template} (h : s.Pins n t) (fs : FileSystem) (m : Text) :
    (s.get? fs m).1.Pins n t := by
  by_cases hm : n = m
  · exact hm ▸ pins_get? (h.find? fs)
  · unfold TemplateStore.get?
    cases s.find? fs m with
    | error f => exact h
    | ok k =>
      rw [Pins, lookup_keep, if_neg hm]
      exact h

theorem Pins.keepAll {t : Template} (fs : FileSystem) (names : List Text) (h : s.Pins n t) :
    (s.keepAll fs names).Pins n t :=
  keepAll_of_get? (P := fun s => s.Pins n t) (fun _ m h => h.get? fs m) names h

/-! ## The user's files -/

omit [Template.Engine] in
theorem dots_notMem_of_steps? {steps : List Text} (h : steps? n = some steps) :
    (".." : Text) ∉ steps := by
  unfold steps? at h
  simp only at h
  split at h
  · exact nomatch h
  · rename_i hdots
    cases h
    intro hmem
    exact hdots (by simpa using (List.mem_filter.mp hmem).1)

omit [Template.Engine] in
theorem userFile?_eq_some_iff {x : Bytes × Nat} : s.userFile? fs n = some x ↔
    ∃ d ∈ s.directory, ∃ steps, steps? n = some steps ∧
      fs.file? { d with names := d.names ++ steps } = some x := by
  unfold userFile? userPath?
  cases hs : steps? n <;> cases hd : s.directory <;> simp

/-- The way to the user's directory does not go up, or it is open. -/
def IsSettled (s : TemplateStore) (fs : FileSystem) : Prop :=
  ∀ d ∈ s.directory, ¬ d.Climbs ∨ ∃ l, fs.follow d.start d.nameBytes = .ok l

theorem IsSettled.of_matches (h : s.IsSettled fs) (hm : Matches s fs s' fs') (hfs : fs' = fs) :
    s'.IsSettled fs' := by
  intro d hd
  rw [hm.directory] at hd
  rw [hfs]
  exact h d hd

omit [Template.Engine] in
/-- Whatever is added to a tree, no other file of the user is found if none was added that the name
leads to. -/
theorem userFile?_eq_of_extends (htree : fs.IsTree) (hkeep : fs.Extends fs')
    (hd : s.IsSettled fs) (hold : ∀ d ∈ s.directory, ∀ steps ∈ steps? n, ∀ l c stamp,
      fs'.locate { d with names := d.names ++ steps } = .ok l →
      fs'.lookup l = some (.file c stamp) → fs.lookup l = some (.file c stamp)) :
    s.userFile? fs' n = s.userFile? fs n := by
  refine Option.ext fun x => ?_
  rw [userFile?_eq_some_iff, userFile?_eq_some_iff]
  refine exists_congr fun d => and_congr_right fun hdir =>
    exists_congr fun steps => and_congr_right fun hsteps => ?_
  rw [FileSystem.file?_eq_some_iff, FileSystem.file?_eq_some_iff]
  constructor
  · rintro ⟨l, hloc, hfile⟩
    have hfile := hold d hdir steps hsteps l _ _ hloc hfile
    refine ⟨l, ?_, hfile⟩
    exact htree.locate hkeep.keepsDirectories (hd d hdir) (dots_notMem_of_steps? hsteps)
      (by rw [hfile]; rfl) hloc
  · rintro ⟨l, hloc, hfile⟩
    exact ⟨l, FileSystem.locate_of_keepsDirectories hkeep.keepsDirectories hloc, hkeep l _ hfile⟩

theorem matches_of_grows (htree : fs.IsTree) (hd : s.IsSettled fs) {p : FilePath}
    (h : FileSystem.Grows p fs fs') : Matches s fs s fs' :=
  matches_of_userFile? fun _ => userFile?_eq_of_extends htree h.keeps hd
    fun _ _ _ _ _ _ _ _ => h.lookup_file_iff.mp

/-! ## Files apart from the user's -/

section Apart

open FileSystem

variable {l : Location}

/-- The user's directory is open, and the place is not below it. -/
def Apart (s : TemplateStore) (fs : FileSystem) (l : Location) : Prop :=
  ∀ d ∈ s.directory, ∃ m, fs.follow d.start d.nameBytes = .ok m ∧ (fs.lookup m).isSome ∧
    m.below? l = none

omit [Template.Engine] in
theorem Apart.of_extends (h : s.Apart fs l) (hd : s'.directory = s.directory)
    (hkeep : fs.Extends fs') : s'.Apart fs' l := by
  intro d hdir
  rw [hd] at hdir
  obtain ⟨m, hm, hsome, hbelow⟩ := h d hdir
  obtain ⟨e, he⟩ := Option.isSome_iff_exists.mp hsome
  refine ⟨m, follow_of_keepsDirectories hkeep.keepsDirectories hm, ?_, hbelow⟩
  rw [hkeep m e he]
  rfl

omit [Template.Engine] in
/-- Where the user has a template, the directory is open. -/
theorem apart_of_userFile? {x : Bytes × Nat} (h : s.userFile? fs n = some x)
    (hl : ∀ d ∈ s.directory, ∀ m, fs.locate d = .ok m → m.below? l = none) : s.Apart fs l := by
  intro d hdir
  obtain ⟨d', hd', steps, hsteps, hfile⟩ := userFile?_eq_some_iff.mp h
  cases Option.mem_unique hdir hd'
  obtain ⟨place, hloc, hlook⟩ := file?_eq_some_iff.mp hfile
  obtain ⟨husable, hfollow⟩ := locate_eq_ok_iff.mp hloc
  rw [FilePath.nameBytes_append] at hfollow
  obtain ⟨m, hm, hdown⟩ := follow_append_eq_ok_iff.mp hfollow
  refine ⟨m, hm, ?_, hl d hdir m (locate_eq_ok_iff.mpr ⟨husable.of_append, hm⟩)⟩
  cases hnames : FilePath.nameBytes ⟨d.root, steps⟩ with
  | nil =>
    rw [hnames, follow] at hdown
    cases hdown
    rw [hlook]
    rfl
  | cons b names =>
    rw [hnames] at hdown
    obtain ⟨k, hk, -⟩ := follow_cons_eq_ok_iff.mp hdown
    rw [(step_eq_ok_iff.mp hk).1]
    rfl

/-- New files of a directory apart from the user's are not found. -/
theorem matches_of_apart (htree : fs.IsTree) (hkeep : fs.Extends fs') (hs : s.Apart fs l)
    (hnew : ∀ place c stamp, fs'.lookup place = some (.file c stamp) →
      fs.lookup place = some (.file c stamp) ∨ ∃ b, place = l.child b ∧ fs.lookup place = none) :
    Matches s fs s fs' := by
  have hsettled : s.IsSettled fs := fun d hd => .inr ((hs d hd).imp fun _ => And.left)
  refine matches_of_userFile? fun n => userFile?_eq_of_extends htree hkeep hsettled ?_
  intro d hd steps hsteps place c stamp hloc hfile
  rcases hnew place c stamp hfile with hold | ⟨b, rfl, hnone⟩
  · exact hold
  · obtain ⟨m, hm, hsome, hbelow⟩ := hs d hd
    obtain ⟨-, hfollow⟩ := locate_eq_ok_iff.mp hloc
    rw [FilePath.nameBytes_append] at hfollow
    obtain ⟨m', hm', hdown⟩ := follow_append_eq_ok_iff.mp hfollow
    cases (follow_of_keepsDirectories hkeep.keepsDirectories hm).symm.trans hm'
    have hplace := follow_eq_of_notMem
      (FilePath.dots_notMem_nameBytes (p := ⟨d.root, steps⟩) (dots_notMem_of_steps? hsteps)) hdown
    cases hnames : FilePath.nameBytes ⟨d.root, steps⟩ using List.reverseRecOn with
    | nil =>
      rw [hnames, List.append_nil] at hplace
      rw [hplace] at hnone
      rw [hnone] at hsome
      exact nomatch hsome
    | append_singleton names b' =>
      rw [hnames, ← List.append_assoc] at hplace
      obtain ⟨hl, -⟩ := Location.child_inj.mp
        (show l.child b = Location.child ⟨m.base, m.names ++ names⟩ b' from hplace)
      rw [Location.below?_eq_some_iff.mpr hl] at hbelow
      exact nomatch hbelow

end Apart

/-! ## Without a user's file -/

/-- The stores that come from using a new one. -/
inductive Reached : TemplateStore → Prop
  | new (directory : Option Text) : Reached (.new directory)
  | get? {s : TemplateStore} (fs : FileSystem) (n : Text) : Reached s → Reached (s.get? fs n).1
  | expand? {s : TemplateStore} (fs : FileSystem) (t : Template)
      (values : List (Text × Value)) : Reached s → Reached (s.expand? fs t values).1

theorem Reached.keepAll (fs : FileSystem) (names : List Text) (h : s.Reached) :
    (s.keepAll fs names).Reached :=
  keepAll_of_get? (fun _ n h => h.get? fs n) names h

/-- What is kept without a stamp is a bundled template. -/
def KeepsBundled (s : TemplateStore) : Prop := ∀ n t, s.kept.lookup n = some ⟨none, t⟩ →
  ∃ source, bundledSource? n = some source ∧ Template.compile? (some n) source = .ok t

theorem bundled_of_load? {t : Template} (h : s.load? fs n = .ok ⟨none, t⟩) :
    ∃ source, bundledSource? n = some source ∧ Template.compile? (some n) source = .ok t := by
  rcases load?_cases h with ⟨_, _, _, -, -, hk⟩ | ⟨-, source, t', hsource, ht, hk⟩
  · exact nomatch hk
  · cases hk
    exact ⟨source, hsource, Except.mapError_eq_ok_iff.mp ht⟩

theorem KeepsBundled.get? (h : s.KeepsBundled) (fs : FileSystem) (n : Text) :
    (s.get? fs n).1.KeepsBundled := by
  intro m t hm
  rcases lookup_get? hm with hk | ⟨-, hload⟩
  · exact h m t hk
  · exact bundled_of_load? hload

theorem KeepsBundled.keepAll (fs : FileSystem) (names : List Text) (h : s.KeepsBundled) :
    (s.keepAll fs names).KeepsBundled :=
  keepAll_of_get? (fun _ n h => h.get? fs n) names h

theorem Reached.keepsBundled (h : s.Reached) : s.KeepsBundled := by
  induction h with
  | new directory => exact fun n t ht => nomatch ht
  | get? fs n _ ih => exact ih.get? fs n
  | expand? fs t values _ ih => exact ih.keepAll fs _

/-- However the store has been used, without a file of the user a bundled template is found as it
is, or none. -/
theorem Reached.find?_eq_load? (h : s.Reached) (hn : s.userFile? fs n = none) :
    s.find? fs n = s.load? fs n := by
  unfold TemplateStore.find?
  split
  · rename_i k hk
    obtain ⟨_ | stamp, t⟩ := k
    · obtain ⟨source, hsource, ht⟩ := h.keepsBundled n t hk
      rw [load?_of_source hn hsource, ofSource?, ht]
      rfl
    · have hstale : s.isFresh fs n ⟨some stamp, t⟩ = false := by
        simp [isFresh, hn]
      rw [hstale, if_neg Bool.false_ne_true]
  · rfl

end ThemeForge.TemplateStore

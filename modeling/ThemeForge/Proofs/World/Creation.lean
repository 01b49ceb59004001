import ThemeForge.Platform
import ThemeForge.Proofs.World.Quiet

/-!
# Creating files

The bytes of a new file are complete before anything happens on disk, and a file that cannot be
written is removed again.

* `Run.Placed`, `Run.result_place`: what writing a new file can do;
* `Run.Placed.grows`, `Run.Placed.addsFile`, `Run.Placed.of_opens`: what it leaves, and when it
  succeeds;
* `Run.result_create_of_error`, `Run.result_create_of_place_ok`: creation in two steps;
* `Run.exists_result_create_again`: the same once more, after a full disk;
* **`create_failed`**: what a creation that fails leaves, and when it can be repeated;
* **`create_again_error`**: when it cannot.
-/

namespace ThemeForge

open FileSystem

namespace Run

/-! ## Writing a new file -/

/-- A place that a file can be created at, once the directory has been made. -/
structure IsFree (d : FilePath) (n : Text) (fs made : FileSystem) (l : Location) : Prop where
  makes : fs.makeDirectories d = (made, .ok ())
  locate : made.locate (d.child n) = .ok l
  lookup : made.lookup l = none
  parent : made.lookup l.parent = some .directory

/-- What writing a new file can do: the outcome, and the files it leaves. -/
inductive Placed (d : FilePath) (n : Text) (bytes : Bytes) (fs : FileSystem) :
    Bool → Except Failure Unit → FileSystem → Prop
  | unmade {made : FileSystem} {f : DirectoryFault} (diskFull : Bool)
      (h : fs.makeDirectories d = (made, .error f)) :
      Placed d n bytes fs diskFull (.error (directoryFailure d f)) made
  | refused {made : FileSystem} {f : PathFault} {content : Bytes} (diskFull : Bool)
      (hmade : fs.makeDirectories d = (made, .ok ()))
      (h : made.createFile (d.child n) content = .error f) :
      Placed d n bytes fs diskFull (.error (creationFailure (d.child n) f)) made
  | undone {made : FileSystem} {l : Location} (h : IsFree d n fs made l) :
      Placed d n bytes fs true (.error (.writing (.writing (d.child n) .noSpace)))
        ((made.putFile l []).removeFile (d.child n))
  | written {made : FileSystem} {l : Location} (h : IsFree d n fs made l) :
      Placed d n bytes fs false (.ok ()) (made.putFile l bytes)

theorem IsFree.of_createFile {d : FilePath} {n : Text} {fs made fs' : FileSystem}
    {content : Bytes} (hmade : fs.makeDirectories d = (made, .ok ()))
    (h : made.createFile (d.child n) content = .ok fs') :
    ∃ l, IsFree d n fs made l ∧ fs' = made.putFile l content := by
  obtain ⟨l, hloc, hnone, hparent, rfl⟩ := createFile_eq_ok_iff.mp h
  exact ⟨l, ⟨hmade, hloc, hnone, hparent⟩, rfl⟩

theorem IsFree.grows {d : FilePath} {n : Text} {fs made : FileSystem} {l : Location}
    (h : IsFree d n fs made l) : Grows d fs made :=
  grows_of_makeDirectories h.makes

theorem IsFree.names_ne_nil {d : FilePath} {n : Text} {fs made : FileSystem} {l : Location}
    (h : IsFree d n fs made l) : l.names ≠ [] :=
  names_ne_nil_of_none h.lookup

/-- A file that is removed again leaves the directories. -/
theorem IsFree.removeFile_putFile {d : FilePath} {n : Text} {fs made : FileSystem} {l : Location}
    (h : IsFree d n fs made l) (htree : fs.IsTree) (content : Bytes) :
    (made.putFile l content).removeFile (d.child n) = { made with clock := made.clock + 1 } :=
  removeFile_createFile (h.grows.tree htree)
    (createFile_eq_ok_iff.mpr ⟨l, h.locate, h.lookup, h.parent, rfl⟩)

theorem result_place (d : FilePath) (n : Text) (bytes : Bytes) (diskFull : Bool) (w : World) :
    ∃ o fs, result (place d n bytes diskFull) w = (o, { w with files := fs }) ∧
      Placed d n bytes w.files diskFull o fs := by
  unfold place makeDirectories writeNew
  simp only [result_bind, result_get, result_setFiles, result_ofExcept]
  rcases hmade : w.files.makeDirectories d with ⟨made, f | _⟩
  · exact ⟨_, _, rfl, .unmade diskFull hmade⟩
  · simp only [Except.mapError_ok]
    rcases hcreated : made.createFile (d.child n) (if diskFull = true then [] else bytes)
      with f | fs'
    · exact ⟨_, _, rfl, .refused diskFull hmade hcreated⟩
    · obtain ⟨l, hfree, rfl⟩ := IsFree.of_createFile hmade hcreated
      cases diskFull with
      | true => exact ⟨_, _, rfl, .undone hfree⟩
      | false => exact ⟨_, _, rfl, .written hfree⟩

namespace Placed

variable {d : FilePath} {n : Text} {bytes : Bytes} {diskFull : Bool} {fs fs' : FileSystem}

/-- A failure adds directories on the path of the destination at most. -/
theorem grows (htree : fs.IsTree) {f : Failure} (h : Placed d n bytes fs diskFull (.error f) fs') :
    Grows d fs fs' := by
  generalize ho : Except.error f = o at h
  cases h with
  | unmade _ hmade => exact grows_of_makeDirectories hmade
  | refused _ hmade _ => exact grows_of_makeDirectories hmade
  | undone hfree =>
    rw [hfree.removeFile_putFile htree]
    exact hfree.grows.with_clock _
  | written _ => exact nomatch ho

theorem of_ok (h : Placed d n bytes fs diskFull (.ok ()) fs') :
    ∃ made l, IsFree d n fs made l ∧ fs' = made.putFile l bytes := by
  cases h with
  | written hfree => exact ⟨_, _, hfree, rfl⟩

/-- Placing a file fails because something is there, because it cannot be written, or by what
nothing handles. -/
theorem error_cases {f : Failure} (h : Placed d n bytes fs diskFull (.error f) fs') :
    (∃ path, f = .fileExists path) ∨ (∃ x, f = .writing x) ∨ ∃ x, f = .unhandled x := by
  generalize ho : Except.error f = o at h
  cases h with
  | unmade _ _ =>
    cases ho
    unfold directoryFailure
    split
    · exact .inr (.inl ⟨_, rfl⟩)
    · exact .inr (.inr ⟨_, rfl⟩)
  | refused _ _ _ =>
    cases ho
    unfold creationFailure
    split
    · exact .inl ⟨_, rfl⟩
    · exact .inr (.inl ⟨_, rfl⟩)
    · exact .inr (.inr ⟨_, rfl⟩)
  | undone _ =>
    cases ho
    exact .inr (.inl ⟨_, rfl⟩)
  | written _ => exact nomatch ho

theorem sameFiles (htree : fs.IsTree) {f : Failure}
    (h : Placed d n bytes fs diskFull (.error f) fs') : fs.SameFiles fs' :=
  (h.grows htree).sameFiles

theorem addsFile (h : Placed d n bytes fs diskFull (.ok ()) fs') : fs.AddsFile fs' (d.child n) := by
  obtain ⟨made, l, hfree, rfl⟩ := h.of_ok
  exact hfree.grows.addsFile_putFile hfree.locate hfree.lookup bytes

/-- On a full disk the file is removed again. -/
theorem of_writing (htree : fs.IsTree) {path : FilePath} {e : SystemError}
    (h : Placed d n bytes fs diskFull (.error (.writing (.writing path e))) fs') :
    path = d.child n ∧ ∃ made l, IsFree d n fs made l ∧
      fs' = { made with clock := made.clock + 1 } := by
  generalize ho : Except.error (Failure.writing (.writing path e)) = o at h
  cases h with
  | unmade _ _ =>
    simp only [Except.error.injEq, directoryFailure] at ho
    split at ho <;> exact nomatch ho
  | refused _ _ _ =>
    simp only [Except.error.injEq, creationFailure] at ho
    split at ho <;> exact nomatch ho
  | undone hfree =>
    cases ho
    exact ⟨rfl, _, _, hfree, hfree.removeFile_putFile htree []⟩
  | written _ => exact nomatch ho

/-- In a directory that can be made, the file is written, or its name is taken, or too long. -/
theorem of_opens {made : FileSystem} {l : Location} {b : Bytes} {o : Except Failure Unit}
    (hopens : Opens d fs made l) (hn : FilePath.IsEntryName n b)
    (h : Placed d n bytes fs false o fs') :
    ((d.child n).IsUsable ∧ made.lookup (l.child b) = none ∧ o = .ok () ∧
      fs' = made.putFile (l.child b) bytes) ∨
    ((d.child n).IsUsable ∧ made.lookup (l.child b) ≠ none ∧
      o = .error (.fileExists (d.child n)) ∧ fs' = made) ∨
    (¬ (d.child n).IsUsable ∧ o = .error (.writing (.creation (d.child n) .nameTooLong)) ∧
      fs' = made) := by
  cases h with
  | unmade _ hmade =>
    rw [hopens.makes] at hmade
    exact nomatch hmade
  | refused _ hmade hcreated =>
    cases hopens.makes.symm.trans hmade
    by_cases husable : (d.child n).IsUsable
    · rw [createFile_child hopens.locate hopens.lookup hn husable] at hcreated
      split at hcreated
      · exact nomatch hcreated
      · rename_i htaken
        cases hcreated
        exact .inr (.inl ⟨husable, htaken, rfl, rfl⟩)
    · rw [createFile_child_of_not_isUsable hopens.locate hn husable] at hcreated
      cases hcreated
      exact .inr (.inr ⟨husable, rfl, rfl⟩)
  | written hfree =>
    cases hopens.makes.symm.trans hfree.makes
    have husable := (locate_eq_ok_iff.mp hfree.locate).1
    cases (locate_child hopens.locate hopens.lookup hn husable).symm.trans hfree.locate
    exact .inl ⟨husable, hfree.lookup, rfl, rfl⟩

end Placed

/-- Where a file can be created, it is. -/
theorem IsFree.result_place {d : FilePath} {n : Text} {made : FileSystem} {l : Location}
    {w : World} (h : IsFree d n w.files made l) (bytes : Bytes) :
    result (place d n bytes false) w = (.ok (), { w with files := made.putFile l bytes }) := by
  obtain ⟨o, fs, hr, hplaced⟩ := Run.result_place d n bytes false w
  rw [hr]
  cases hplaced with
  | unmade _ hmade =>
    rw [h.makes] at hmade
    exact nomatch hmade
  | refused _ hmade hcreated =>
    rw [h.makes] at hmade
    cases hmade
    rw [createFile_eq_ok_iff.mpr ⟨l, h.locate, h.lookup, h.parent, rfl⟩] at hcreated
    exact nomatch hcreated
  | written hfree =>
    cases h.makes.symm.trans hfree.makes
    cases h.locate.symm.trans hfree.locate
    rfl

/-- A place that is free stays so while time passes. -/
theorem IsFree.again {d : FilePath} {n : Text} {fs made : FileSystem} {l : Location}
    (h : IsFree d n fs made l) (c : Nat) :
    IsFree d n { made with clock := c } { made with clock := c } l where
  makes := by
    have hkeep : made.KeepsDirectories { made with clock := c } := fun _ hl => hl
    obtain ⟨m, hm⟩ := exists_opens h.makes
    exact (hm.again hkeep).makes
  locate := by rw [locate_with_clock, h.locate]
  lookup := h.lookup
  parent := h.parent

theorem IsFree.file?_putFile {d : FilePath} {n : Text} {fs made : FileSystem} {l : Location}
    (h : IsFree d n fs made l) (bytes : Bytes) :
    (made.putFile l bytes).file? (d.child n) = some (bytes, made.clock) := by
  refine file?_eq_some_iff.mpr ⟨l, ?_, ?_⟩
  · exact locate_of_keepsDirectories (extends_putFile h.lookup bytes).keepsDirectories h.locate
  · rw [lookup_putFile h.names_ne_nil, if_pos rfl]

/-! ## Creation in two steps -/

theorem result_noteCreated (t : Template) (path : FilePath) (w : World) :
    ∃ w', result (noteCreated t path) w = (.ok (), w') ∧ w'.files = w.files ∧
      w'.store = w.store ∧ w'.registered = w.registered :=
  ⟨_, rfl, rfl, rfl, rfl⟩

section Engine

variable [Template.Engine]

theorem result_create_of_error {t : Template} {n : Text} {values : TemplateValues} {w w' : World}
    {f : Failure} (h : result (draft t n values) w = (.error f, w')) (directory : Text)
    (diskFull : Bool) : result (create t n values directory diskFull) w = (.error f, w') :=
  result_bind_error h _

theorem result_create_of_place_error {t : Template} {n : Text} {values : TemplateValues}
    {w w' w'' : World} {bytes : Bytes} {f : Failure} {directory : Text} {diskFull : Bool}
    (h : result (draft t n values) w = (.ok bytes, w'))
    (hplace : result (place (.ofText directory) n bytes diskFull) w' = (.error f, w'')) :
    result (create t n values directory diskFull) w = (.error f, w'') := by
  unfold create
  rw [result_bind_ok h, result_bind_error hplace]

theorem result_create_of_place_ok {t : Template} {n : Text} {values : TemplateValues}
    {w w' w'' : World} {bytes : Bytes} {directory : Text} {diskFull : Bool}
    (h : result (draft t n values) w = (.ok bytes, w'))
    (hplace : result (place (.ofText directory) n bytes diskFull) w' = (.ok (), w'')) :
    result (create t n values directory diskFull) w =
      (.ok ((FilePath.ofText directory).child n),
        (result (noteCreated t ((FilePath.ofText directory).child n)) w'').2) := by
  unfold create
  rw [result_bind_ok h, result_bind_ok hplace]
  rfl

/-- After a full disk, the same creation succeeds as it would have before: what the store finds has
not changed, so the bytes are the same again, and their place is still free. -/
theorem exists_result_create_again {t : Template} {n : Text} {values : TemplateValues}
    {directory : Text} {diskFull : Bool} {w w' : World} {bytes : Bytes} {fs : FileSystem}
    {path : FilePath} {e : SystemError} (htree : w.files.IsTree)
    (hsettled : w.store.IsSettled w.files)
    (hdraft : result (draft t n values) w = (.ok bytes, w')) (hquiet : World.Quiet w w')
    (h : Placed (.ofText directory) n bytes w.files diskFull
      (.error (.writing (.writing path e))) fs) :
    ∃ w₂ w₃, result (create t n values directory false) w = (.ok path, w₂) ∧
      result (create t n values directory false) { w' with files := fs } = (.ok path, w₃) ∧
      w₂.files.SameContent w₃.files := by
  have hgrows := h.grows htree
  obtain ⟨rfl, made, l, hfree, rfl⟩ := h.of_writing htree
  have hmatch := hquiet.store
  rw [hquiet.files] at hmatch
  have hnext := hmatch.trans
    (TemplateStore.matches_of_grows htree (hsettled.of_matches hmatch rfl) hgrows)
  obtain ⟨v, hv, hfiles⟩ := result_draft_of_matches
    (v := { w' with files := { made with clock := made.clock + 1 } }) hnext
    (congrArg Prod.fst hdraft)
  have hfree₁ := hfree.again (made.clock + 1)
  rw [show FileSystem.mk made.entries (made.clock + 1) = v.files from hfiles.symm] at hfree₁
  rw [← hquiet.files] at hfree
  refine ⟨_, _, result_create_of_place_ok hdraft (hfree.result_place bytes),
    result_create_of_place_ok hv (hfree₁.result_place bytes), ?_⟩
  have hlookup (m : Location) : made.lookup m = v.files.lookup m := by
    rw [hfiles]
    rfl
  exact sameContent_putFile hlookup hfree.names_ne_nil bytes

end Engine

end Run

/-- **A creation that fails keeps all there was and adds directories on the destination's path at
most**, none if the name, the template or its text is at fault. **If the disk was full, the same
can be done again** with the same result, provided that the way to the user's templates does not go
up, or is open. -/
theorem create_failed [Template.Engine] {t : Template} {n : Text} {values : TemplateValues}
    {directory : Text} {diskFull : Bool} {w w₁ : World} {f : Failure} (htree : w.files.IsTree)
    (h : (Run.create t n values directory diskFull).result w = (.error f, w₁)) :
    w.files.Extends w₁.files ∧
    (∀ l e, w.files.lookup l = none → w₁.files.lookup l = some e →
      e = .directory ∧ w₁.files.OnPath (.ofText directory) l) ∧
    ((FilePath.isBareName n = false ∨
        (∃ g, ((Run.render t values).result w).1 = .error g) ∨
        ∃ text, ((Run.render t values).result w).1 = .ok text ∧
          ∃ g, text.encode? = .error g) →
      w₁.files = w.files) ∧
    ∀ path e, f = .writing (.writing path e) → w.store.IsSettled w.files →
      ∃ w₂ w₃, (Run.create t n values directory false).result w = (.ok path, w₂) ∧
        (Run.create t n values directory false).result w₁ = (.ok path, w₃) ∧
        w₂.files.SameContent w₃.files := by
  have hquiet := Run.isQuiet_draft t n values w
  have hdraft := Run.result_draft_fst t n values w
  rcases hr : (Run.draft t n values).result w with ⟨g | bytes, w'⟩
  · rw [Run.result_create_of_error hr] at h
    obtain ⟨hf, rfl⟩ := Prod.mk.inj h
    rw [hr] at hquiet hdraft
    have hsame : w'.files = w.files := hquiet.files
    have hgrows := Grows.refl (.ofText directory) w.files
    refine ⟨hsame ▸ hgrows.keeps, hsame ▸ hgrows.added, fun _ => hsame, ?_⟩
    rintro path e rfl
    cases hf
    exact absurd hdraft.symm (Run.draft?_ne_writing _)
  · rw [hr] at hquiet hdraft
    obtain ⟨hbare, text, htext, hbytes⟩ := Run.draft?_eq_ok_iff.mp hdraft.symm
    obtain ⟨o, fs, hp, hplaced⟩ := Run.result_place (.ofText directory) n bytes diskFull w'
    rw [show w'.files = w.files from hquiet.files] at hplaced
    rcases o with g | _
    · rw [Run.result_create_of_place_error hr hp] at h
      obtain ⟨hf, rfl⟩ := Prod.mk.inj h
      cases hf
      have hgrows := hplaced.grows htree
      refine ⟨hgrows.keeps, hgrows.added, fun hearly => ?_, ?_⟩
      · simp only [Run.result_render, htext, hbare] at hearly
        rcases hearly with hb | ⟨g', hg⟩ | ⟨text', ht, g', hg⟩
        · exact nomatch hb
        · exact nomatch hg
        · cases ht
          rw [hbytes] at hg
          exact nomatch hg
      · rintro path e rfl hsettled
        exact Run.exists_result_create_again htree hsettled hr hquiet hplaced
    · rw [Run.result_create_of_place_ok hr hp] at h
      exact nomatch h

/-! ## A directory behind one that is made -/

/-- A world with a template `x`, which cannot be expanded, in the directory `tpl`; the store looks
for the user's templates in another or the same directory. -/
def sampleWorld (directory : Text) : World where
  files := (({} : FileSystem).put ⟨.working 0, [Text.bytes "tpl"]⟩ .directory).putFile
    ⟨.working 0, [Text.bytes "tpl", Text.bytes "x"]⟩ (Text.bytes "\x7b\x7b nope \x7d\x7d")
  store := .new (some directory)

/-- A template that inserts `x` if there is such a template. -/
def sampleTemplate : Template := ⟨none, "\x7b% include 'x' ignore missing %\x7d"⟩

theorem isTree_sampleWorld (directory : Text) : (sampleWorld directory).files.IsTree :=
  (isTree_empty.put rfl rfl _).putFile rfl rfl _

/-- A creation in a new directory on a full disk, and the same once more. -/
theorem create_failed_diskFull :
    let w := sampleWorld "out/tpl"
    let create (full : Bool) := Run.create sampleTemplate "f.json" [] "out/a" full
    let path : FilePath := ⟨"", ["out", "a", "f.json"]⟩
    w.files.IsTree ∧ w.store.IsSettled w.files ∧
    ((create true).result w).1 = .error (.writing (.writing path .noSpace)) ∧
    w.files.Extends ((create true).result w).2.files ∧
    ∃ w₂ w₃, (create false).result w = (.ok path, w₂) ∧
      (create false).result ((create true).result w).2 = (.ok path, w₃) ∧
      w₂.files.SameContent w₃.files := by
  intro w create path
  have htree : w.files.IsTree := isTree_sampleWorld _
  have hsettled : w.store.IsSettled w.files := by
    rintro d ⟨⟩
    exact .inl (by decide)
  have hfull : ((create true).result w).1 = .error (.writing (.writing path .noSpace)) := by
    decide +kernel
  rcases hr : (create true).result w with ⟨o, w₁⟩
  rw [hr] at hfull
  obtain rfl : o = .error (.writing (.writing path .noSpace)) := hfull
  obtain ⟨hkeeps, -, -, hagain⟩ := create_failed htree hr
  exact ⟨htree, hsettled, rfl, hkeeps, hagain path .noSpace rfl hsettled⟩

/-- **What a full disk leaves can open the way to a template**: the directory that is made for the
file lies on the way to the user's templates. Done again, the same creation fails. -/
theorem create_again_error :
    let w := sampleWorld "out/../tpl"
    let create (full : Bool) := Run.create sampleTemplate "f.json" [] "out" full
    let path : FilePath := ⟨"", ["out", "f.json"]⟩
    w.files.IsTree ∧ ((create false).result w).1 = .ok path ∧
    ((create true).result w).1 = .error (.writing (.writing path .noSpace)) ∧
    ((create false).result ((create true).result w).2).1 =
      .error (.rendering (.expansion none (.undefined "'nope' is undefined"))) :=
  ⟨isTree_sampleWorld _, by decide +kernel⟩

end ThemeForge

import ThemeForge.Proofs.World.Creation

/-!
# Where files are created

Whatever name is given, a new file comes directly into the directory that is given, and all else
that is new are the directories on the way to it.

* `Run.draft?_eq_fileName_iff`: the names that are refused;
* `Run.exists_result_create`: a creation as a draft that is placed;
* `Run.IsFree.exists_child`: a place that is free lies directly in the directory;
* **`create_confined`**: the whole of it.
-/

namespace ThemeForge

open FileSystem

section Engine

variable [Template.Engine]

namespace Run

/-! ## Names that are refused -/

theorem rendered?_ne_fileName {library : Template.Library} {t : Template}
    {values : TemplateValues} (n : Text) :
    rendered? library t values ≠ .error (.rendering (.fileName n)) := by
  unfold rendered?
  split
  · exact (nomatch ·)
  · rcases (t.expand? library values).1 with (_ | _ | _ | _) | text <;> exact (nomatch ·)

theorem draft?_eq_fileName_iff {library : Template.Library} {t : Template} {n : Text}
    {values : TemplateValues} :
    draft? library t n values = .error (.rendering (.fileName n)) ↔
      FilePath.isBareName n = false := by
  cases hbare : FilePath.isBareName n with
  | false =>
    unfold draft?
    rw [hbare]
    exact iff_of_true rfl rfl
  | true =>
    refine iff_of_false (fun h => ?_) (nomatch ·)
    rw [draft?_of_isBareName hbare, Except.bind_eq_error_iff] at h
    rcases h with h | ⟨text, -, h⟩
    · exact rendered?_ne_fileName n h
    · obtain ⟨f, -, hf⟩ := Except.mapError_eq_error_iff.mp h
      exact nomatch hf

omit [Template.Engine] in
theorem Placed.ne_fileName {d : FilePath} {n name : Text} {bytes : Bytes} {diskFull : Bool}
    {fs fs' : FileSystem} {o : Except Failure Unit} (h : Placed d n bytes fs diskFull o fs') :
    o ≠ .error (.rendering (.fileName name)) := by
  rintro rfl
  rcases h.error_cases with ⟨_, h⟩ | ⟨_, h⟩ | ⟨_, h⟩ <;> exact nomatch h

/-! ## What a creation does -/

/-- A creation fails with its draft and touches no file, or the draft is placed. -/
theorem exists_result_create (t : Template) (n : Text) (values : TemplateValues)
    (directory : Text) (diskFull : Bool) (w : World) :
    (∃ f w', draft? (w.store.library w.files) t n values = .error f ∧ w'.files = w.files ∧
      result (create t n values directory diskFull) w = (.error f, w')) ∨
    ∃ bytes o fs w', draft? (w.store.library w.files) t n values = .ok bytes ∧
      Placed (.ofText directory) n bytes w.files diskFull o fs ∧ w'.files = fs ∧
      result (create t n values directory diskFull) w =
        (o.map fun _ => (FilePath.ofText directory).child n, w') := by
  have hfst := result_draft_fst t n values w
  have hquiet := isQuiet_draft t n values w
  rcases hr : result (draft t n values) w with ⟨f | bytes, w'⟩
  · rw [hr] at hfst hquiet
    exact .inl ⟨f, w', hfst.symm, hquiet.files, result_create_of_error hr directory diskFull⟩
  · rw [hr] at hfst hquiet
    obtain ⟨o, fs, hp, hplaced⟩ := result_place (.ofText directory) n bytes diskFull w'
    rw [show w'.files = w.files from hquiet.files] at hplaced
    refine .inr ⟨bytes, o, fs, ?_⟩
    rcases o with g | _
    · exact ⟨_, hfst.symm, hplaced, rfl, result_create_of_place_error hr hp⟩
    · exact ⟨_, hfst.symm, hplaced, rfl, result_create_of_place_ok hr hp⟩

omit [Template.Engine] in
theorem endsWith_withLineEnd (t : Text) : (withLineEnd t).endsWith "\n" = true := by
  unfold withLineEnd
  split
  · assumption
  · rw [Text.endsWith, List.isSuffixOf_iff_suffix]
    exact List.suffix_append t "\n"

theorem endsWith_of_rendered? {library : Template.Library} {t : Template}
    {values : TemplateValues} {text : Text} (h : rendered? library t values = .ok text) :
    text.endsWith "\n" = true := by
  unfold rendered? at h
  split at h
  · exact nomatch h
  · rcases hx : (t.expand? library values).1 with f | body
    · rw [hx] at h
      exact nomatch h
    · rw [hx] at h
      cases h
      exact endsWith_withLineEnd body

omit [Template.Engine] in
/-- A name of two dots leads to a directory, so a place that is free is an entry of the
directory. -/
theorem IsFree.exists_child {d : FilePath} {n : Text} {fs made : FileSystem} {l : Location}
    (h : IsFree d n fs made l) (htree : fs.IsTree) :
    ∃ m b, n.encodeEscaped? = .ok b ∧ made.locate d = .ok m ∧
      made.lookup m = some .directory ∧ l = m.child b := by
  obtain ⟨m, b, hb, hm, hdir, ⟨rfl, rfl⟩ | ⟨-, rfl⟩⟩ := exists_of_locate_child h.locate
  · have hparent := h.grows.tree htree m (by rw [hdir]; rfl)
    have hnone := h.lookup
    rw [hparent] at hnone
    exact nomatch hnone
  · exact ⟨m, b, hb, hm, hdir, rfl⟩

omit [Template.Engine] in
/-- Nothing was at the path of a new file before its directory was made. -/
theorem IsFree.find?_ne {d : FilePath} {n : Text} {fs made : FileSystem} {l : Location}
    (h : IsFree d n fs made l) (e : Entry) : fs.find? (d.child n) ≠ .ok (some e) := by
  unfold find?
  intro hfound
  obtain ⟨k, hk, hlook⟩ := Except.bind_eq_ok_iff.mp hfound
  cases (locate_of_keepsDirectories h.grows.keeps.keepsDirectories hk).symm.trans h.locate
  have hnone := h.grows.keeps.lookup_eq_none h.lookup
  rw [hnone] at hlook
  exact nomatch hlook

end Run

/-- **A creation is confined to its directory.** It refuses exactly the texts that are no names of
files. If it fails, no file changes. If it succeeds, there was nothing at the path it returns, and
now there is a file with the rendered text, which is an entry of the directory; all else that is
new are the directories on the way. -/
theorem create_confined (t : Template) (n : Text) (values : TemplateValues) (directory : Text)
    (diskFull : Bool) {w : World} (htree : w.files.IsTree) :
    let d := FilePath.ofText directory
    let r := (Run.create t n values directory diskFull).result w
    (r.1 = .error (.rendering (.fileName n)) ↔
      ¬ (n ≠ [] ∧ Code.ofChar '/' ∉ n ∧ n ≠ ".")) ∧
    (∀ f, r.1 = .error f → w.files.SameFiles r.2.files) ∧
    ∀ p, r.1 = .ok p → p = d.child n ∧ (∀ e, w.files.find? p ≠ .ok (some e)) ∧
      ∃ text bytes m b, ((Run.render t values).result w).1 = .ok text ∧
        text.endsWith "\n" = true ∧ text.encode? = .ok bytes ∧
        n.encodeEscaped? = .ok b ∧ r.2.files.locate d = .ok m ∧
        r.2.files.locate p = .ok (m.child b) ∧ w.files.Gains d (m.child b) bytes r.2.files := by
  intro d r
  rw [← FilePath.isBareName_iff, Bool.not_eq_true, ← Run.draft?_eq_fileName_iff]
  rcases Run.exists_result_create t n values directory diskFull w with
    ⟨f, w', hdraft, hfiles, hr⟩ | ⟨bytes, o, fs, w', hdraft, hplaced, rfl, hr⟩
  · rw [show r = (.error f, w') from hr, hdraft]
    refine ⟨by simp, fun _ _ => ?_, fun p hp => nomatch hp⟩
    rw [hfiles]
    exact .refl w.files
  · rw [show r = (o.map fun _ => d.child n, w') from hr, hdraft]
    refine ⟨iff_of_false (fun h => ?_) (nomatch ·), fun f hf => ?_, fun p hp => ?_⟩
    · cases o with
      | error f =>
        cases h
        exact hplaced.ne_fileName rfl
      | ok _ => exact nomatch h
    · cases o with
      | error f => exact hplaced.sameFiles htree
      | ok _ => exact nomatch hf
    · cases o with
      | error f => exact nomatch hp
      | ok _ =>
        cases hp
        obtain ⟨made, l, hfree, hmade⟩ := hplaced.of_ok
        obtain ⟨-, text, htext, hbytes⟩ := Run.draft?_eq_ok_iff.mp hdraft
        obtain ⟨m, b, hb, hm, hdir, rfl⟩ := hfree.exists_child htree
        have hkeep := (extends_putFile hfree.lookup bytes).keepsDirectories
        refine ⟨rfl, hfree.find?_ne, text, bytes, m, b, ?_, Run.endsWith_of_rendered? htext,
          hbytes, hb, ?_⟩
        · rw [Run.result_render]
          exact htext
        · rw [hmade]
          exact ⟨locate_of_keepsDirectories hkeep hm,
            locate_of_keepsDirectories hkeep hfree.locate,
            hfree.grows.gains_putFile hm hdir hfree.lookup bytes⟩

end Engine

/-- A name that starts with two dots in a directory that is reached by going up, and a name that
ends in a slash. -/
theorem create_confined_dots :
    let w := sampleWorld "out/tpl"
    let d : FilePath := .ofText "out/../tpl/b"
    let r (n : Text) := (Run.create sampleTemplate n [] "out/../tpl/b" false).result w
    w.files.IsTree ∧ (r "..a").1 = .ok (d.child "..a") ∧
    (∃ bytes m b, (r "..a").2.files.locate d = .ok m ∧
      (r "..a").2.files.locate (d.child "..a") = .ok (m.child b) ∧
      w.files.Gains d (m.child b) bytes (r "..a").2.files) ∧
    (r "a/").1 = .error (.rendering (.fileName "a/")) := by
  intro w d r
  have htree : w.files.IsTree := isTree_sampleWorld _
  have hr (n : Text) : (Run.create sampleTemplate n [] "out/../tpl/b" false).result w = r n := rfl
  have hdots : ((Run.create sampleTemplate "..a" [] "out/../tpl/b" false).result w).1 =
      .ok (d.child "..a") := by
    decide +kernel
  have hconfined (n : Text) := create_confined sampleTemplate n [] "out/../tpl/b" false htree
  simp only [hr] at hdots hconfined
  -- the runs are not to be compared by what they come to
  clear_value r
  obtain ⟨-, -, hcreated⟩ := hconfined "..a"
  obtain ⟨-, -, -, bytes, m, b, -, -, -, -, hm, hchild, hgains⟩ := hcreated _ hdots
  have hslash : (r "a/").1 = .error (.rendering (.fileName "a/")) :=
    (hconfined "a/").1.mpr fun ⟨_, hslash, _⟩ => hslash (by decide)
  exact ⟨htree, hdots, ⟨bytes, m, b, hm, hchild, hgains⟩, hslash⟩

end ThemeForge

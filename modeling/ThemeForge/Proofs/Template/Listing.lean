import ThemeForge.Proofs.Files.Listing
import ThemeForge.Proofs.Template.Sorted
import ThemeForge.Proofs.World.Creation

/-!
# Listed templates are those that are found

A new store lists its templates by looking through directories, and finds one by following a path.

* `TemplateStore.canonical`: a name without the pieces that mean nothing;
* `TemplateStore.Fits`: a name for which the system takes the path of the user's template;
* `TemplateStore.mem_userNames_iff`: the names of the user's templates;
* `TemplateStore.userFile?_eq_none_iff`: which names the user has no file for;
* `Run.template_eq_notFound_iff`: which names no template is found for;
* **`template_listed`**: what the listing says of every name.
-/

namespace ThemeForge

open FileSystem

namespace TemplateStore

variable {s : TemplateStore} {fs : FileSystem} {n : Text} {steps : List Text}

/-! ## Names -/

/-- A name without what means nothing: empty pieces between slashes, and single dots. -/
def canonical (n : Text) : Text := Text.join "/" ((n.splitOn '/').filter FilePath.isStep)

theorem steps?_eq_some_iff : steps? n = some steps ↔
    (".." : Text) ∉ n.splitOn '/' ∧ (n.splitOn '/').filter FilePath.isStep = steps := by
  unfold steps?
  by_cases h : (".." : Text) ∈ n.splitOn '/' <;> simp [h]

theorem steps?_eq_none_iff : steps? n = none ↔ (".." : Text) ∈ n.splitOn '/' := by
  unfold steps?
  by_cases h : (".." : Text) ∈ n.splitOn '/' <;> simp [h]

theorem ne_nil_of_mem_steps (n : Text) :
    ∀ t ∈ (n.splitOn '/').filter FilePath.isStep, t ≠ [] ∧ Code.ofChar '/' ∉ t := by
  intro t ht
  obtain ⟨hpiece, hstep⟩ := List.mem_filter.mp ht
  refine ⟨?_, Text.notMem_of_mem_splitOn hpiece⟩
  rintro rfl
  exact nomatch hstep

/-- Names that entries of directories bear are the steps of their text. -/
theorem steps?_namesText {names : List Bytes} (hne : names ≠ []) (h : ∀ b ∈ names, IsEntry b) :
    steps? (namesText names) = some (names.map Utf8.decodeEscaped) := by
  have hback {b : Bytes} {t : Text} (hb : Utf8.decodeEscaped b = t) : b = t.escapedBytes := by
    rw [← hb, Utf8.escapedBytes_decodeEscaped]
  have hslash : ∀ t ∈ names.map Utf8.decodeEscaped, Code.ofChar '/' ∉ t := by
    intro t ht
    obtain ⟨b, hb, rfl⟩ := List.mem_map.mp ht
    rw [← Text.slash_mem_escapedBytes, Utf8.escapedBytes_decodeEscaped]
    exact (h b hb).noSlash
  have hsplit : (namesText names).splitOn '/' = names.map Utf8.decodeEscaped :=
    Text.splitOn_join hslash (by simpa using hne)
  rw [steps?_eq_some_iff, hsplit]
  refine ⟨fun hdots => ?_, List.filter_eq_self.mpr fun t ht => ?_⟩
  · obtain ⟨b, hb, heq⟩ := List.mem_map.mp hdots
    exact (h b hb).ne_dots (hback heq)
  · obtain ⟨b, hb, rfl⟩ := List.mem_map.mp ht
    have hnil : Utf8.decodeEscaped b ≠ [] := fun heq => (h b hb).ne_nil (hback heq)
    have hdot : Utf8.decodeEscaped b ≠ "." := fun heq => (h b hb).ne_dot (hback heq)
    simp [FilePath.isStep, hnil, hdot]

/-- The path of the user's template has no more bytes than the system takes. -/
def Fits (s : TemplateStore) (n : Text) : Prop :=
  ∀ steps ∈ steps? n, ∀ p ∈ s.userPath? steps, p.text.escapedBytes.length ≤ maxPathBytes

instance (s : TemplateStore) (n : Text) : Decidable (s.Fits n) :=
  inferInstanceAs (Decidable (∀ steps ∈ steps? n, ∀ p ∈ s.userPath? steps, _))

/-! ## The user's templates -/

/-- The user's directory is none, missing or a directory, but not a file. -/
def HasNoFile (s : TemplateStore) (fs : FileSystem) : Prop := ∀ d ∈ s.directory, fs.file? d = none

instance (s : TemplateStore) (fs : FileSystem) : Decidable (s.HasNoFile fs) :=
  inferInstanceAs (Decidable (∀ d ∈ s.directory, _))

theorem mem_userNames_iff : n ∈ s.userNames fs ↔ ∃ d ∈ s.directory, ∃ l, fs.locate d = .ok l ∧
    fs.lookup l = some .directory ∧ ∃ names ∈ fs.filesBelow l,
      fs.hasDirectory (d.down names.dropLast) = true ∧ namesText names = n := by
  unfold userNames
  cases s.directory with
  | none => simp
  | some d =>
    cases hl : fs.locate d with
    | error f => simp [hasDirectory, hl]
    | ok l =>
      by_cases hdir : fs.lookup l = some .directory
      · have hhas : fs.hasDirectory d = true := hasDirectory_iff.mpr ⟨l, hl, hdir⟩
        simp [hhas, hl, hdir, and_assoc]
      · have hhas : fs.hasDirectory d = false := by
          rw [← Bool.not_eq_true, hasDirectory_iff]
          rintro ⟨l', hl', hdir'⟩
          cases hl.symm.trans hl'
          exact hdir hdir'
        simp [hhas, hl, hdir]

theorem exists_names (hfs : fs.IsSound) (hn : n ∈ s.userNames fs) : ∃ d ∈ s.directory,
    ∃ l, fs.locate d = .ok l ∧ ∃ names ∈ fs.filesBelow l, names ≠ [] ∧
      (∀ b ∈ names, IsEntry b) ∧ namesText names = n := by
  obtain ⟨d, hd, l, hl, hdir, names, hmem, -, rfl⟩ := mem_userNames_iff.mp hn
  obtain ⟨content, stamp, hlook⟩ := hfs.mem_filesBelow_iff.mp hmem
  refine ⟨d, hd, l, hl, names, hmem, ?_, fun b hb => ?_, rfl⟩
  · rintro rfl
    rw [List.append_nil, hdir] at hlook
    exact nomatch hlook
  · exact hfs.isEntry (by rw [hlook]; rfl) (List.mem_append_right l.names hb)

/-- A name for which the user has a file is that of a listed template. -/
theorem exists_mem_userNames (hfs : fs.IsSound) (hdir : s.HasNoFile fs) {x : Bytes × Nat}
    (h : s.userFile? fs n = some x) : ∃ m ∈ s.userNames fs, m.SameBytes (canonical n) := by
  obtain ⟨d, hd, steps, hsteps, hfile⟩ := userFile?_eq_some_iff.mp h
  obtain ⟨l, hl, hlook, hmem, hhas⟩ :=
    hfs.exists_listed (hdir d hd) (dots_notMem_of_steps? hsteps) hfile
  refine ⟨_, mem_userNames_iff.mpr ⟨d, hd, l, hl, hlook, _, hmem, hhas, rfl⟩, ?_⟩
  obtain ⟨content, stamp⟩ := x
  obtain ⟨place, hloc, -⟩ := file?_eq_some_iff.mp hfile
  obtain ⟨husable, -⟩ := locate_eq_ok_iff.mp hloc
  have hesc : ∀ t ∈ steps, t.IsEscapable := fun t ht =>
    husable.isEscapable (List.mem_append_right d.names ht)
  rw [canonical, (steps?_eq_some_iff.mp hsteps).2]
  refine ⟨isEscapable_namesText _, Text.isEscapable_join.mpr hesc, ?_⟩
  rw [escapedBytes_namesText, Text.escapedBytes_join]

/-- The steps of a name that is that of a listed template. -/
theorem exists_steps (hfs : fs.IsSound) {m : Text} (hm : m ∈ s.userNames fs)
    (hsteps : steps? n = some steps) (hsame : m.SameBytes (canonical n)) :
    ∃ d ∈ s.directory, ∃ l, fs.locate d = .ok l ∧ ∃ us, steps? m = some us ∧
      us.map Text.escapedBytes ∈ fs.filesBelow l ∧ (∀ u ∈ us, u.IsEscapable) ∧
      (∀ t ∈ steps, t.IsEscapable) ∧
      us.map Text.escapedBytes = steps.map Text.escapedBytes := by
  obtain ⟨d, hd, l, hl, names, hmem, hne, hentry, rfl⟩ := exists_names hfs hm
  obtain ⟨-, rfl⟩ := steps?_eq_some_iff.mp hsteps
  obtain ⟨hesc, heq⟩ := (namesText_sameBytes_iff
    (fun b hb => ⟨(hentry b hb).ne_nil, (hentry b hb).noSlash⟩) (ne_nil_of_mem_steps n)).mp hsame
  have hbytes := Utf8.map_escapedBytes_map_decodeEscaped names
  refine ⟨d, hd, l, hl, _, steps?_namesText hne hentry, hbytes.symm ▸ hmem, fun u hu => ?_, hesc,
    hbytes.trans heq.symm⟩
  obtain ⟨b, -, rfl⟩ := List.mem_map.mp hu
  exact Utf8.isEscapable_decodeEscaped b

/-- **The user has a file for a name that is that of a listed template**, if the system takes its
path; it is the file of the listed name. -/
theorem exists_userFile? (hfs : fs.IsSound) {m : Text} (hm : m ∈ s.userNames fs)
    (hsteps : (".." : Text) ∉ n.splitOn '/') (hsame : m.SameBytes (canonical n))
    (hfits : s.Fits n) :
    ∃ x, s.userFile? fs n = some x ∧ s.userFile? fs m = some x := by
  obtain ⟨steps, hsteps⟩ := Option.ne_none_iff_exists'.mp (mt steps?_eq_none_iff.mp hsteps)
  obtain ⟨d, hd, l, hl, us, hus, hmem, huesc, hesc, heq⟩ := exists_steps hfs hm hsteps hsame
  have hlen := hfits steps hsteps (d.on steps) (by rw [userPath?, hd]; rfl)
  rw [heq] at hmem
  obtain ⟨⟨content, stamp⟩, hfile⟩ := hfs.exists_file hl hmem hesc hlen
  refine ⟨_, userFile?_eq_some_iff.mpr ⟨d, hd, steps, hsteps, hfile⟩,
    userFile?_eq_some_iff.mpr ⟨d, hd, us, hus, ?_⟩⟩
  obtain ⟨place, hloc, hlook⟩ := file?_eq_some_iff.mp hfile
  exact file?_eq_some_iff.mpr ⟨place, FilePath.locate_on_congr hloc huesc heq.symm, hlook⟩

theorem userFile?_eq_none_of_not_fits (h : ¬ s.Fits n) : s.userFile? fs n = none := by
  by_contra hsome
  obtain ⟨⟨content, stamp⟩, hx⟩ := Option.ne_none_iff_exists'.mp hsome
  obtain ⟨d, hd, steps, hsteps, hfile⟩ := userFile?_eq_some_iff.mp hx
  obtain ⟨place, hloc, -⟩ := file?_eq_some_iff.mp hfile
  obtain ⟨⟨b, hb, hlen⟩, -⟩ := locate_eq_ok_iff.mp hloc
  refine h fun steps' hsteps' p hp => ?_
  cases Option.mem_unique hsteps hsteps'
  rw [userPath?, hd] at hp
  cases hp
  rw [FilePath.bytes?_eq_ok hb] at hlen
  exact hlen

/-! ## Bundled templates -/

theorem bundledSource?_eq_some_iff {source : Text} : bundledSource? n = some source ↔
    (".." : Text) ∉ n.splitOn '/' ∧ Bundled.templates.lookup (canonical n) = some source := by
  unfold bundledSource?
  cases hsteps : steps? n with
  | none => simp [steps?_eq_none_iff.mp hsteps]
  | some steps =>
    obtain ⟨hdots, rfl⟩ := steps?_eq_some_iff.mp hsteps
    simp [hdots, canonical]

theorem bundledSource?_eq_none_iff : bundledSource? n = none ↔
    (".." : Text) ∈ n.splitOn '/' ∨ canonical n ∉ Bundled.templates.map Prod.fst := by
  have hlookup : Bundled.templates.lookup (canonical n) = none ↔
      canonical n ∉ Bundled.templates.map Prod.fst := by
    rw [List.lookup_eq_none_iff, List.mem_map]
    refine ⟨fun h ⟨e, he, heq⟩ => ?_, fun h e he => ?_⟩
    · simpa [heq] using h e he
    · exact bne_iff_ne.mpr fun heq => h ⟨e, he, heq.symm⟩
  rw [← hlookup]
  cases hsource : bundledSource? n with
  | none =>
    refine iff_of_true rfl ?_
    by_contra h
    obtain ⟨hdots, hne⟩ := not_or.mp h
    obtain ⟨source, hlook⟩ := Option.ne_none_iff_exists'.mp hne
    rw [bundledSource?_eq_some_iff.mpr ⟨hdots, hlook⟩] at hsource
    exact nomatch hsource
  | some source =>
    obtain ⟨hdots, hlook⟩ := bundledSource?_eq_some_iff.mp hsource
    exact iff_of_false (nomatch ·) (by simp [hdots, hlook])

theorem ascii_of_bundled : ∀ m ∈ Bundled.templates.map Prod.fst, ∀ c ∈ m, c.val < 0x80 := by
  decide

/-! ## Finding and listing -/

theorem userFile?_eq_none_of_dots (h : (".." : Text) ∈ n.splitOn '/') :
    s.userFile? fs n = none := by
  rw [userFile?, steps?_eq_none_iff.mpr h]
  rfl

/-- The user has no file for a name exactly if it is that of no listed template of the user. -/
theorem userFile?_eq_none_iff (hfs : fs.IsSound) (hdir : s.HasNoFile fs) (hfits : s.Fits n) :
    s.userFile? fs n = none ↔
      (".." : Text) ∈ n.splitOn '/' ∨ ∀ m ∈ s.userNames fs, ¬ m.SameBytes (canonical n) := by
  constructor
  · intro h
    rw [or_iff_not_imp_left]
    intro hdots m hm hsame
    obtain ⟨x, hx, -⟩ := exists_userFile? hfs hm hdots hsame hfits
    rw [h] at hx
    exact nomatch hx
  · rintro (h | h)
    · exact userFile?_eq_none_of_dots h
    · by_contra hne
      obtain ⟨x, hx⟩ := Option.ne_none_iff_exists'.mp hne
      obtain ⟨m, hm, hsame⟩ := exists_mem_userNames hfs hdir hx
      exact h m hm hsame

/-- No listed name is the same as a name exactly if no listed name of the user is, and the name is
not bundled. -/
theorem forall_mem_list_iff : (∀ e ∈ s.list fs, ¬ e.1.SameBytes (canonical n)) ↔
    (∀ m ∈ s.userNames fs, ¬ m.SameBytes (canonical n)) ∧
      canonical n ∉ Bundled.templates.map Prod.fst := by
  constructor
  · refine fun h => ⟨fun m hm => h (m, .user) (mem_list_iff.mpr (.inl ⟨hm, rfl⟩)), fun hc => ?_⟩
    have hesc : (canonical n).IsEscapable := fun c hcode hs => by
      have := ascii_of_bundled _ hc c hcode
      unfold Code.IsSurrogate at hs
      omega
    by_cases hm : canonical n ∈ s.userNames fs
    · exact h (canonical n, .user) (mem_list_iff.mpr (.inl ⟨hm, rfl⟩)) ⟨hesc, hesc, rfl⟩
    · exact h (canonical n, .bundled) (mem_list_iff.mpr (.inr ⟨hm, hc, rfl⟩)) ⟨hesc, hesc, rfl⟩
  · rintro ⟨huser, hbundled⟩ ⟨m, o⟩ he hsame
    rcases mem_list_iff.mp he with ⟨hm, -⟩ | ⟨-, hm, -⟩
    · exact huser m hm hsame
    · exact hbundled (hsame.eq_of_ascii (ascii_of_bundled m hm) ▸ hm)

/-- A listed name is the same as a canonical name without surrogates only if they are equal. -/
theorem sameBytes_canonical_iff (hfs : fs.IsSound) (hn : (canonical n).IsEncodable)
    {e : Text × TemplateOrigin} (he : e ∈ s.list fs) :
    e.1.SameBytes (canonical n) ↔ e.1 = canonical n := by
  constructor
  · intro hsame
    obtain ⟨m, o⟩ := e
    rcases mem_list_iff.mp he with ⟨hm, -⟩ | ⟨-, hm, -⟩
    · obtain ⟨d, -, l, -, names, -, -, hentry, rfl⟩ := exists_names hfs hm
      exact eq_of_sameBytes_namesText
        (fun b hb => ⟨(hentry b hb).ne_nil, (hentry b hb).noSlash⟩) (ne_nil_of_mem_steps n)
        (fun t ht c hc => hn c (Text.mem_join_of_mem ht hc)) hsame
    · exact hsame.eq_of_ascii (ascii_of_bundled m hm)
  · intro heq
    have hesc : (canonical n).IsEscapable := fun c hc hs => absurd hs (hn c hc)
    rw [heq]
    exact ⟨hesc, hesc, rfl⟩

end TemplateStore

namespace Run

open TemplateStore

variable {directory : Option Text} {w : World} {n : Text}

/-- What a new store gives for a name. -/
theorem result_template_new (h : w.store = .new directory) (n : Text) :
    ((template n).result w).1 =
      ((w.store.load? w.files n).map KeptTemplate.template).mapError (storeFailure n) := by
  rw [result_template_fst, h, find?_new]

theorem result_template_of_file (h : w.store = .new directory) {x : Bytes × Nat}
    (hx : w.store.userFile? w.files n = some x) :
    ((template n).result w).1 = (ofBytes? n x.1).mapError (storeFailure n) := by
  rw [result_template_new h, load?_of_file hx]
  cases ofBytes? n x.1 <;> rfl

theorem result_template_of_source (h : w.store = .new directory) {source : Text}
    (huser : w.store.userFile? w.files n = none) (hn : bundledSource? n = some source) :
    ((template n).result w).1 = (ofSource? n source).mapError (storeFailure n) := by
  rw [result_template_new h, load?_of_source huser hn]
  cases ofSource? n source <;> rfl

theorem storeFailure_eq_notFound_iff {f : StoreFault} :
    storeFailure n f = .templateNotFound n ↔ f = .notFound := by
  cases f <;> simp [storeFailure]

/-- No template is found exactly if the user has no file for the name and none is bundled. -/
theorem template_eq_notFound_iff (h : w.store = .new directory) :
    ((template n).result w).1 = .error (.templateNotFound n) ↔
      w.store.userFile? w.files n = none ∧ bundledSource? n = none := by
  cases huser : w.store.userFile? w.files n with
  | some x =>
    refine iff_of_false (fun hr => ?_) (nomatch ·.1)
    rw [result_template_of_file h huser] at hr
    obtain ⟨f, hf, heq⟩ := Except.mapError_eq_error_iff.mp hr
    exact ofBytes?_ne_notFound n x.1 (storeFailure_eq_notFound_iff.mp heq ▸ hf)
  | none =>
    cases hn : bundledSource? n with
    | some source =>
      refine iff_of_false (fun hr => ?_) (nomatch ·.2)
      rw [result_template_of_source h huser hn] at hr
      obtain ⟨f, hf, heq⟩ := Except.mapError_eq_error_iff.mp hr
      exact ofSource?_ne_notFound n source (storeFailure_eq_notFound_iff.mp heq ▸ hf)
    | none =>
      refine iff_of_true ?_ ⟨rfl, rfl⟩
      rw [result_template_new h, load?_of_none huser hn]
      rfl

end Run

open TemplateStore

/-- A world with a file in the directory `tpl`, whose name is made of two bytes of one character. -/
def accentWorld : World where
  files := (({} : FileSystem).put ⟨.working 0, [Text.bytes "tpl"]⟩ .directory).putFile
    ⟨.working 0, [Text.bytes "tpl", [0xc3, 0xa9]]⟩ []
  store := .new (some "tpl")

/-- The same name as the text of its bytes, each as a surrogate. -/
def escapedAccent : Text := [0xc3, 0xa9].map Utf8.escapeByte

/-- A name of as many bytes as the system takes. -/
def longName : Bytes := List.replicate 255 97

/-- A world with a file that lies below 15 directories in the directory `tpl`. -/
def deepWorld : World where
  files := ((List.range 16).foldl
    (fun (fs : FileSystem) k =>
      fs.put ⟨.working 0, Text.bytes "tpl" :: List.replicate k longName⟩ .directory) {}).putFile
    ⟨.working 0, Text.bytes "tpl" :: List.replicate 16 longName⟩ []
  store := .new (some "tpl")

/-- The name of the file. -/
def deepName : Text := namesText (List.replicate 16 longName)

/-- The path that goes down `k` times. -/
def deepPath (k : Nat) : FilePath := (FilePath.ofText "tpl").down (List.replicate k longName)

theorem isEntry_longName : IsEntry longName where
  ne_nil := by decide
  ne_dot := by decide
  ne_dots := by decide
  noSlash h := absurd (List.eq_of_mem_replicate h) (by decide)
  noZero h := absurd (List.eq_of_mem_replicate h) (by decide)
  length_le := Nat.le_of_eq List.length_replicate

theorem steps?_deepName :
    steps? deepName = some ((List.replicate 16 longName).map Utf8.decodeEscaped) := by
  refine steps?_namesText (List.cons_ne_nil _ _) fun b hb => ?_
  rw [List.eq_of_mem_replicate hb]
  exact isEntry_longName

theorem length_deepPath (k : Nat) : (deepPath k).text.escapedBytes.length = 3 + k * 256 := by
  have hlen := FilePath.length_text (p := deepPath k) rfl (List.cons_ne_nil _ _)
  have htpl : (FilePath.ofText "tpl").names.map Text.escapedBytes = [Text.bytes "tpl"] := by decide
  rw [deepPath, FilePath.down, List.map_append, Utf8.map_escapedBytes_map_decodeEscaped, htpl,
    List.flatten_append, List.length_append, longName, List.flatten_replicate_replicate,
    List.length_replicate, List.length_append, List.length_map, List.length_replicate] at hlen
  change _ + 1 = (3 + k * 255) + (1 + k) at hlen
  change (deepPath k).text.escapedBytes.length + 1 = _ at hlen
  omega

/-- The system does not take the way to the file. -/
theorem not_fits_deepName : ¬ deepWorld.store.Fits deepName := by
  intro h
  have hlen := h _ steps?_deepName (deepPath 16) rfl
  rw [length_deepPath] at hlen
  exact absurd hlen (by decide)

set_option maxRecDepth 2000 in
theorem deepWorld_files : deepWorld.files.IsSound ∧
    deepWorld.files.lookup ⟨.working 0, [Text.bytes "tpl"]⟩ = some .directory ∧
    deepWorld.files.lookup ⟨.working 0, [Text.bytes "tpl"] ++ List.replicate 15 longName⟩ =
      some .directory ∧
    List.replicate 16 longName ∈ deepWorld.files.filesBelow ⟨.working 0, [Text.bytes "tpl"]⟩ := by
  decide

theorem locate_deepWorld : deepWorld.files.locate (.ofText "tpl") =
    .ok ⟨.working 0, [Text.bytes "tpl"]⟩ := by
  decide

/-- Looking through the directories meets the file. -/
theorem deepName_mem_userNames : deepName ∈ deepWorld.store.userNames deepWorld.files := by
  obtain ⟨hfs, hdir, hplace, hmem⟩ := deepWorld_files
  have hbytes := Utf8.map_escapedBytes_map_decodeEscaped (List.replicate 15 longName)
  have husable : (deepPath 15).IsUsable := by
    obtain ⟨⟨b, hb, -⟩, -⟩ := locate_eq_ok_iff.mp locate_deepWorld
    have hnameable : ∀ t ∈ (List.replicate 15 longName).map Utf8.decodeEscaped,
        ∀ c ∈ t, c.IsNameable := by
      intro t ht
      obtain ⟨name, hname, rfl⟩ := List.mem_map.mp ht
      rw [List.eq_of_mem_replicate hname]
      have hentry := isEntry_longName
      rw [← Utf8.escapedBytes_decodeEscaped longName] at hentry
      exact hentry.isNameable (Utf8.isEscapable_decodeEscaped longName)
    obtain ⟨b', hb'⟩ := FilePath.exists_bytes?_on ⟨b, hb⟩ hnameable
    have hlen := length_deepPath 15
    change (deepPath 15).bytes? = _ at hb'
    rw [← FilePath.bytes?_eq_ok hb'] at hlen
    exact ⟨b', hb', by rw [hlen]; decide⟩
  have hdown : deepWorld.files.hasDirectory (deepPath 15) = true := by
    refine hasDirectory_iff.mpr ⟨_, hfs.locate_down locate_deepWorld husable ?_, ?_⟩ <;>
      rw [hbytes, hplace]
    rfl
  have hdrop : (List.replicate 16 longName).dropLast = List.replicate 15 longName :=
    List.dropLast_replicate
  refine mem_userNames_iff.mpr ⟨.ofText "tpl", rfl, _, locate_deepWorld, hdir, _, hmem, ?_, rfl⟩
  rw [hdrop]
  exact hdown

end ThemeForge

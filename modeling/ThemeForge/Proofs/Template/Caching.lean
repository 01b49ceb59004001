import ThemeForge.Proofs.Files.Stamp
import ThemeForge.Proofs.Template.Bundled
import ThemeForge.Proofs.World.Creation

/-!
# Templates that are kept while files change

Files of the user are written and removed while a store is in use. A kept template of the user is
taken only while its file is the one it was read from; a kept bundled template is taken for good,
also when the user has a file for its name by then.

* `TemplateStore.IsCoherent`: the kept templates of the user are those of their files;
* `TemplateStore.IsPinned`: a bundled template is kept for the name;
  `TemplateStore.isPinned_keepAll_iff`: how this comes about;
* **`TemplateStore.IsCoherent.find?_eq_load?`**: what is kept makes no difference for a name whose
  file of the user no bundled template hides;
* `StoreEvent`, `World.IsInUse`: what happens around a store, step by step, and what is true all
  the time;
* **`found_after_events`**: which templates a store gives after anything that happened.
-/

namespace ThemeForge

open FileSystem

namespace TemplateStore

variable {s : TemplateStore} {fs fs' : FileSystem} {n : Text}

/-! ## Kept templates of the user -/

/-- The place of the user's file for a name. -/
def userPlace? (s : TemplateStore) (n : Text) : Option Location := do
  let path ← s.userPath? (← steps? n)
  return path.start.go path.nameBytes

theorem userPlace?_get? (s : TemplateStore) (fs : FileSystem) (m n : Text) :
    (s.get? fs m).1.userPlace? n = s.userPlace? n := by
  unfold userPlace? userPath?
  rw [(matches_get? s fs m).directory]

theorem exists_place_of_userFile? {bytes : Bytes} {stamp : Nat}
    (h : s.userFile? fs n = some (bytes, stamp)) :
    ∃ l, s.userPlace? n = some l ∧ fs.lookup l = some (.file bytes stamp) := by
  obtain ⟨d, hd, steps, hsteps, hfile⟩ := userFile?_eq_some_iff.mp h
  refine ⟨_, ?_, lookup_of_file? hfile⟩
  simp only [userPlace?, hsteps, userPath?, Option.mem_def.mp hd]
  rfl

/-- The kept templates of the user are those of the files at their places, as far as these still
bear the stamps that were kept. -/
def IsCoherent (s : TemplateStore) (fs : FileSystem) : Prop :=
  ∀ n stamp t, s.kept.lookup n = some ⟨some stamp, t⟩ → stamp < fs.clock ∧
    ∀ l ∈ s.userPlace? n, ∀ bytes, fs.lookup l = some (.file bytes stamp) →
      ofBytes? n bytes = .ok t

theorem isCoherent_new (directory : Option Text) (fs : FileSystem) :
    (new directory).IsCoherent fs := fun _ _ _ h => nomatch h

/-- What is written later bears another stamp. -/
theorem IsCoherent.of_later (h : s.IsCoherent fs) (hfs : fs.Later fs') : s.IsCoherent fs' := by
  intro n stamp t hk
  obtain ⟨hlt, hfile⟩ := h n stamp t hk
  refine ⟨Nat.lt_of_lt_of_le hlt hfs.clock_le, fun l hl bytes hlook => ?_⟩
  exact hfile l hl bytes (hfs.old l bytes stamp hlook hlt)

theorem IsCoherent.get? (h : s.IsCoherent fs) (hfs : fs.IsDated) (n : Text) :
    (s.get? fs n).1.IsCoherent fs := by
  intro m stamp t hm
  rw [userPlace?_get?]
  rcases lookup_get? hm with hk | ⟨-, hload⟩
  · exact h m stamp t hk
  · rcases load?_cases hload with ⟨bytes, _, _, huser, ht, hk⟩ | ⟨-, _, _, -, -, hk⟩
    · cases hk
      obtain ⟨l, hl, hlook⟩ := exists_place_of_userFile? huser
      refine ⟨hfs l bytes stamp hlook, fun l' hl' bytes' hlook' => ?_⟩
      cases hl.symm.trans hl'
      cases hlook.symm.trans hlook'
      exact ht
    · exact nomatch hk

theorem IsCoherent.keepAll (hfs : fs.IsDated) (names : List Text) (h : s.IsCoherent fs) :
    (s.keepAll fs names).IsCoherent fs :=
  keepAll_of_get? (P := fun s => s.IsCoherent fs) (fun _ n h => h.get? hfs n) names h

/-! ## Kept bundled templates -/

/-- A bundled template is kept for the name. -/
def IsPinned (s : TemplateStore) (n : Text) : Prop := ∃ t, s.Pins n t

/-- The user has no file for the name, but a template is bundled. -/
def FallsBack (s : TemplateStore) (fs : FileSystem) (n : Text) : Prop :=
  s.userFile? fs n = none ∧ (bundledSource? n).isSome

theorem FallsBack.of_matches {s' : TemplateStore} (h : Matches s fs s' fs') :
    s'.FallsBack fs' n ↔ s.FallsBack fs n := by
  rw [FallsBack, FallsBack, h.userFile? n]

/-- A bundled template is kept once it was taken. -/
theorem isPinned_get?_iff (hs : s.Reached) {m : Text} :
    (s.get? fs m).1.IsPinned n ↔ s.IsPinned n ∨ (n = m ∧ s.FallsBack fs n) := by
  constructor
  · rintro ⟨t, ht⟩
    rcases lookup_get? ht with hk | ⟨hn, hload⟩
    · exact .inl ⟨t, hk⟩
    · rcases load?_cases hload with ⟨_, _, _, -, -, hk⟩ | ⟨huser, source, _, hsource, -, -⟩
      · cases hk
      · exact .inr ⟨hn, huser, by rw [hsource]; rfl⟩
  · rintro (⟨t, ht⟩ | ⟨rfl, huser, hbundled⟩)
    · exact ⟨t, ht.get? fs m⟩
    · obtain ⟨source, hsource⟩ := Option.isSome_iff_exists.mp hbundled
      exact ⟨_, pins_get? (Bundled.find?_bundled hs huser hsource)⟩

theorem isPinned_keepAll_iff (names : List Text) (hs : s.Reached) :
    (s.keepAll fs names).IsPinned n ↔ s.IsPinned n ∨ (n ∈ names ∧ s.FallsBack fs n) := by
  induction names generalizing s with
  | nil => simp [keepAll]
  | cons m names ih =>
    change ((s.get? fs m).1.keepAll fs names).IsPinned n ↔ _
    rw [ih (hs.get? fs m), isPinned_get?_iff hs, FallsBack.of_matches (matches_get? s fs m),
      List.mem_cons, or_and_right, or_assoc]

/-! ## What is found -/

/-- **What is kept makes no difference**, unless the user has a file for a name whose bundled
template is kept. -/
theorem IsCoherent.find?_eq_load? (h : s.IsCoherent fs) (hs : s.Reached)
    (hn : s.IsPinned n → s.userFile? fs n = none) : s.find? fs n = s.load? fs n := by
  cases huser : s.userFile? fs n with
  | none => exact hs.find?_eq_load? huser
  | some x =>
    obtain ⟨bytes, stamp⟩ := x
    unfold TemplateStore.find?
    split
    · rename_i k hk
      split
      · rename_i hfresh
        obtain ⟨_ | kept, t⟩ := k
        · rw [hn ⟨t, hk⟩] at huser
          exact nomatch huser
        · -- the file is still the one that was read
          have hstamp : stamp = kept := by simpa [isFresh, huser] using hfresh
          subst hstamp
          obtain ⟨l, hl, hlook⟩ := exists_place_of_userFile? huser
          rw [load?_of_file huser, (h n stamp t hk).2 l hl bytes hlook]
          rfl
      · rfl
    · rfl

end TemplateStore

/-! ## What happens around a store -/

/-- A file is written or removed, a template is taken from the store, or one is rendered. -/
inductive StoreEvent
  | write (path : FilePath) (content : Bytes)
  | remove (path : FilePath)
  | get (name : Text)
  | render (t : Template) (values : TemplateValues)

namespace StoreEvent

open TemplateStore

variable {directory : Option Text} {w : World} {n : Text}

/-- The world after an event. -/
def perform (w : World) : StoreEvent → World
  | .write path content => { w with files := w.files.installFile path content }
  | .remove path => { w with files := w.files.uninstall path }
  | .get name => ((Run.template name).result w).2
  | .render t values => ((Run.render t values).result w).2

/-- The world after several events. -/
def performAll (w : World) (events : List StoreEvent) : World := events.foldl perform w

/-- The names of the templates that are taken from the store at an event. -/
def names (w : World) : StoreEvent → List Text
  | .write _ _ => []
  | .remove _ => []
  | .get name => [name]
  | .render t values =>
    if values.any (fun e => e.1 == Run.ownName) then []
    else (t.expand? (w.store.library w.files) values).2

theorem store_perform (w : World) (e : StoreEvent) :
    (e.perform w).store = w.store.keepAll w.files (e.names w) := by
  cases e with
  | write path content => rfl
  | remove path => rfl
  | get name =>
    rw [perform, Run.result_template]
    rfl
  | render t values =>
    rw [perform, Run.result_render, names]
    split <;> rfl

theorem later_perform (w : World) (e : StoreEvent) (h : w.files.IsDated) :
    (e.perform w).files.IsDated ∧ w.files.Later (e.perform w).files := by
  have hsame {fs : FileSystem} (hfs : fs = w.files) : fs.IsDated ∧ w.files.Later fs := by
    rw [hfs]
    exact ⟨h, .refl w.files⟩
  cases e with
  | write path content => exact ⟨h.installFile path content, later_installFile _ path content⟩
  | remove path => exact ⟨h.uninstall path, later_uninstall _ path⟩
  | get name => exact hsame (Run.isQuiet_template name w).files
  | render t values => exact hsame (Run.isQuiet_render t values w).files

end StoreEvent

/-- What is true of a world in which a store over a directory is in use. -/
structure World.IsInUse (directory : Option Text) (w : World) : Prop where
  directory : w.store.directory = (TemplateStore.new directory).directory
  reached : w.store.Reached
  dated : w.files.IsDated
  coherent : w.store.IsCoherent w.files

open TemplateStore

variable {directory : Option Text} {w : World} {n : Text}

theorem World.isInUse_new (h : w.store = .new directory) (hfs : w.files.IsDated) :
    w.IsInUse directory where
  directory := by rw [h]
  reached := by
    rw [h]
    exact .new directory
  dated := hfs
  coherent := by
    rw [h]
    exact isCoherent_new directory w.files

/-- What one event preserves. -/
theorem World.IsInUse.perform (h : w.IsInUse directory) (e : StoreEvent) :
    (e.perform w).IsInUse directory where
  directory := by
    rw [StoreEvent.store_perform]
    exact (matches_keepAll _ _ _).directory.trans h.directory
  reached := by
    rw [StoreEvent.store_perform]
    exact h.reached.keepAll _ _
  dated := (StoreEvent.later_perform w e h.dated).1
  coherent := by
    rw [StoreEvent.store_perform]
    exact (h.coherent.keepAll h.dated _).of_later (StoreEvent.later_perform w e h.dated).2

/-- What any number of events preserves. -/
theorem World.IsInUse.performAll (h : w.IsInUse directory) (events : List StoreEvent) :
    (StoreEvent.performAll w events).IsInUse directory := by
  induction events generalizing w with
  | nil => exact h
  | cons e events ih => exact ih (h.perform e)

/-- One event keeps a bundled template for the names that fall back to it. -/
theorem World.IsInUse.isPinned_perform_iff (h : w.IsInUse directory) (e : StoreEvent) :
    (e.perform w).store.IsPinned n ↔
      w.store.IsPinned n ∨ (n ∈ e.names w ∧ w.store.FallsBack w.files n) := by
  rw [StoreEvent.store_perform, isPinned_keepAll_iff _ h.reached]

/-- **A bundled template is kept exactly if it was taken at some event before.** -/
theorem World.IsInUse.isPinned_performAll_iff (h : w.IsInUse directory)
    (events : List StoreEvent) : (StoreEvent.performAll w events).store.IsPinned n ↔
      w.store.IsPinned n ∨ ∃ before e after, events = before ++ e :: after ∧
        n ∈ e.names (StoreEvent.performAll w before) ∧
        (StoreEvent.performAll w before).store.FallsBack
          (StoreEvent.performAll w before).files n := by
  induction events generalizing w with
  | nil => simp [StoreEvent.performAll]
  | cons e events ih =>
    change (StoreEvent.performAll (e.perform w) events).store.IsPinned n ↔ _
    rw [ih (h.perform e), h.isPinned_perform_iff, or_assoc]
    refine or_congr_right ⟨?_, ?_⟩
    · rintro (⟨hn, hback⟩ | ⟨before, e', after, rfl, hn, hback⟩)
      · exact ⟨[], e, events, rfl, hn, hback⟩
      · exact ⟨e :: before, e', after, rfl, hn, hback⟩
    · rintro ⟨_ | ⟨e'', before⟩, e', after, heq, hn, hback⟩
      · cases heq
        exact .inl ⟨hn, hback⟩
      · cases heq
        exact .inr ⟨before, e', after, rfl, hn, hback⟩

/-! ## What a store gives -/

/-- The user has a file for the name, but a bundled template is kept for it. -/
def TemplateStore.Hides (s : TemplateStore) (fs : FileSystem) (n : Text) : Prop :=
  s.IsPinned n ∧ (s.userFile? fs n).isSome

theorem World.IsInUse.userFile?_new (h : w.IsInUse directory) (n : Text) :
    (TemplateStore.new directory).userFile? w.files n = w.store.userFile? w.files n :=
  userFile?_of_directory h.directory.symm w.files n

/-- Where nothing is hidden, the store finds what a new one does. -/
theorem World.IsInUse.find?_new (h : w.IsInUse directory) (hn : ¬ w.store.Hides w.files n) :
    (TemplateStore.new directory).find? w.files n = w.store.find? w.files n := by
  rw [TemplateStore.find?_new, load?_of_userFile? (h.userFile?_new n)]
  refine (h.coherent.find?_eq_load? h.reached fun hpinned => ?_).symm
  rw [← Option.isNone_iff_eq_none, ← Option.not_isSome]
  simpa using fun hsome => hn ⟨hpinned, hsome⟩

/-- Where something is hidden, the store finds the bundled template. -/
theorem World.IsInUse.find?_of_hides (h : w.IsInUse directory) (hn : w.store.Hides w.files n) :
    ∃ source t, bundledSource? n = some source ∧ ofSource? n source = .ok t ∧
      w.store.find? w.files n = .ok ⟨none, t⟩ := by
  obtain ⟨⟨t, ht⟩, -⟩ := hn
  obtain ⟨source, hsource, hcompile⟩ := h.reached.keepsBundled n t ht
  exact ⟨source, t, hsource, Except.mapError_eq_ok_iff.mpr hcompile, ht.find? w.files⟩

/-- **After anything that happened, a store gives the templates that a new one gives**, but for
names for which a bundled template was taken while the user had no file, and now has one: for
these, the bundled template goes on to be given. Without such names, whatever is rendered gives the
same as with a new store. -/
theorem found_after_events {w₀ : World} (hnew : w₀.store = .new directory)
    (hdated : w₀.files.IsDated) (events : List StoreEvent) :
    let w := StoreEvent.performAll w₀ events
    let fresh : World := { w with store := .new directory }
    let found (w : World) (n : Text) := ((Run.template n).result w).1
    (∀ n, ¬ w.store.Hides w.files n → found w n = found fresh n) ∧
    (∀ n, w.store.Hides w.files n → ∃ source x, bundledSource? n = some source ∧
      fresh.store.userFile? w.files n = some x ∧
      found w n = (ofSource? n source).mapError (Run.storeFailure n) ∧
      found fresh n = (ofBytes? n x.1).mapError (Run.storeFailure n)) ∧
    ((∀ n, ¬ w.store.Hides w.files n) → ∀ t values,
      ((Run.render t values).result w).1 = ((Run.render t values).result fresh).1) ∧
    ∀ n, w.store.Hides w.files n ↔ (fresh.store.userFile? w.files n).isSome ∧
      ∃ before e after, events = before ++ e :: after ∧
        let v := StoreEvent.performAll w₀ before
        n ∈ e.names v ∧ v.store.FallsBack v.files n := by
  intro w fresh found
  have hstart := World.isInUse_new hnew hdated
  have h : w.IsInUse directory := hstart.performAll events
  refine ⟨fun n hn => ?_, fun n hn => ?_, fun hall t values => ?_, fun n => ?_⟩
  · change ((Run.template n).result w).1 = ((Run.template n).result fresh).1
    rw [Run.result_template_fst, Run.result_template_fst, h.find?_new hn]
  · obtain ⟨source, t, hsource, ht, hfind⟩ := h.find?_of_hides hn
    obtain ⟨⟨bytes, stamp⟩, huser⟩ := Option.isSome_iff_exists.mp hn.2
    rw [← h.userFile?_new n] at huser
    refine ⟨source, _, hsource, huser, ?_, ?_⟩
    · change ((Run.template n).result w).1 = _
      rw [Run.result_template_fst, hfind, ht]
      rfl
    · change ((Run.template n).result fresh).1 = _
      rw [Run.result_template_fst, TemplateStore.find?_new, load?_of_file huser]
      cases ofBytes? n bytes <;> rfl
  · have hmatches : w.store.Matches w.files fresh.store w.files :=
      ⟨h.directory.symm, h.userFile?_new, fun n => h.find?_new (hall n)⟩
    rw [Run.result_render, Run.result_render]
    change _ = Run.rendered? (fresh.store.library w.files) t values
    rw [hmatches.library]
  · have hpinned : ¬ w₀.store.IsPinned n := by
      rw [hnew]
      exact fun ⟨t, ht⟩ => nomatch ht
    rw [Hides, hstart.isPinned_performAll_iff events, h.userFile?_new n, and_comm]
    exact and_congr_right fun _ => or_iff_right hpinned

/-- A world without files, whose store looks for the user's templates in `tpl`. -/
def emptyWorld : World where
  store := .new (some "tpl")

/-- A file that was read is written anew: the new one is found, and nothing is hidden. -/
theorem found_after_rewriting :
    let w := StoreEvent.performAll emptyWorld [.write (.ofText "tpl/x") (Text.bytes "a"),
      .get "x", .write (.ofText "tpl/x") (Text.bytes "b")]
    let fresh : World := { w with store := .new (some "tpl") }
    emptyWorld.files.IsDated ∧ (∀ n, ¬ w.store.Hides w.files n) ∧
    ((Run.template "x").result w).1 = ((Run.template "x").result fresh).1 ∧
    ((Run.render sampleTemplate []).result w).1 = .ok "b\n" := by
  intro w fresh
  obtain ⟨hfound, -, hrender, -⟩ :=
    found_after_events (show emptyWorld.store = .new (some "tpl") from rfl) isDated_empty
      [.write (.ofText "tpl/x") (Text.bytes "a"), .get "x",
        .write (.ofText "tpl/x") (Text.bytes "b")]
  have hkept : w.store.kept.map (fun e => (e.1, e.2.stamp)) = [(("x" : Text), some 0)] := by
    decide
  have hall : ∀ n, ¬ w.store.Hides w.files n := by
    rintro n ⟨⟨t, ht⟩, -⟩
    obtain ⟨before, after, heq, -⟩ := List.lookup_eq_some_iff.mp ht
    have hmem : (n, none) ∈ w.store.kept.map fun e => (e.1, e.2.stamp) := by
      rw [heq]
      simp
    rw [hkept, List.mem_singleton] at hmem
    cases hmem
  refine ⟨isDated_empty, hall, hfound _ (hall _), ?_⟩
  rw [hrender hall sampleTemplate []]
  decide +kernel

/-- A template is taken and rendered. -/
theorem Run.result_template_render (n : Text) (values : TemplateValues) (w : World) :
    ((Run.template n >>= fun t => Run.render t values).result w).1 =
      ((w.store.find? w.files n).map KeptTemplate.template).mapError (Run.storeFailure n) >>=
        fun t => Run.rendered? (w.store.library w.files) t values := by
  have hfst := Run.result_template_fst n w
  have hquiet := Run.isQuiet_template n w
  rw [Run.result_bind]
  rcases hr : (Run.template n).result w with ⟨f | t, w'⟩
  · rw [hr] at hfst
    rw [← hfst]
    rfl
  · rw [hr] at hfst hquiet
    have hlibrary := hquiet.store.library
    rw [← hfst]
    change ((Run.render t values).result w').1 = Run.rendered? (w.store.library w.files) t values
    rw [Run.result_render, ← hlibrary]

theorem Run.result_template_render_of_find? {n : Text} {w : World} {k : KeptTemplate}
    (h : w.store.find? w.files n = .ok k) (values : TemplateValues) :
    ((Run.template n >>= fun t => Run.render t values).result w).1 =
      Run.rendered? (w.store.library w.files) k.template values := by
  rw [result_template_render, h]
  rfl

/-- **A file of the user is not found once the bundled template of its name was taken**, though a
new store finds it. -/
theorem bundled_stays :
    let name : Text := "ThemeJson.json"
    let w := StoreEvent.performAll emptyWorld
      [.get name, .write (.ofText "tpl/ThemeJson.json") (Text.bytes "mine")]
    let fresh : World := { w with store := .new (some "tpl") }
    let made (w : World) := ((Run.template name >>= fun t =>
      Run.render t (Theme.properties "A" true).toValues).result w).1
    made w = .ok (Bundled.themeText "A" true) ∧ made fresh = .ok "mine\n" := by
  intro name w fresh made
  have hback : emptyWorld.store.FallsBack emptyWorld.files name :=
    ⟨by decide, by decide⟩
  have hstart : emptyWorld.IsInUse (some "tpl") := World.isInUse_new rfl isDated_empty
  -- for any world, so that nothing is evaluated
  have hfiles (v : World) (n : Text) (path : FilePath) (bytes : Bytes) :
      (StoreEvent.performAll v [.get n, .write path bytes]).files =
        v.files.installFile path bytes :=
    congrArg (fun fs => fs.installFile path bytes) (Run.isQuiet_template n v).files
  constructor
  · obtain ⟨t, ht⟩ : w.store.IsPinned name := (hstart.isPinned_performAll_iff _).mpr
      (.inr ⟨[], .get name, _, rfl, List.mem_singleton_self name, hback⟩)
    obtain ⟨source, hsource, hcompile⟩ := (hstart.performAll _).reached.keepsBundled name t ht
    rw [Bundled.source_of_bundledSource? hsource, Bundled.compile?_themeSource] at hcompile
    change ((Run.template name >>= fun t => Run.render t _).result w).1 = _
    rw [Run.result_template_render_of_find? (ht.find? w.files), ← Except.ok.inj hcompile]
    exact Bundled.rendered?_theme (w.store.library w.files) (some name) "A" true
  · have huser : fresh.store.userFile? w.files name = some (Text.bytes "mine", 0) := by
      rw [hfiles]
      decide
    change ((Run.template name >>= fun t => Run.render t _).result fresh).1 = _
    rw [Run.result_template_render, TemplateStore.find?_new, load?_of_file huser]
    decide

end ThemeForge

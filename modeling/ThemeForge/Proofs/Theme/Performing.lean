import ThemeForge.Proofs.Theme.Document
import ThemeForge.Proofs.Theme.Turn

/-!
# Performing the action again and again

Files are created in one directory, request by request. What is planned for a request stays the
same all the time, so the first request for a name gets the file, and the others fail.

* `ThemeAction.performEach`: performing the action for several requests;
* `ThemeAction.KeepsPlans`: why plans stay the same, `ThemeAction.Stage`: the invariant of a run;
* `ThemeAction.Stage.exists_turn`, **`ThemeAction.Stage.exists_turns`**: a step, and a run;
* `ThemeAction.Stage.exists_swap`: requests that change places;
* `ThemeAction.FirstWins`, **`performEach_firstWins`**: what a run does;
* **`perform_made_in_place`**: a path that makes a directory under the name of the file.
-/

namespace ThemeForge

open FileSystem Bundled

/-- The provider of a request that is given, or of none. -/
def Provider.ofRequest? : Option ThemeRequest → Provider
  | none => .cancelled
  | some r => .given r

namespace ThemeAction

/-- Performs the action for each of several requests, where none stands for a user who has
cancelled; a failure does not stop the others. -/
def performEach (a : ThemeAction) (directory : Text) :
    List (Option ThemeRequest) → Run (List (Except Failure (Option FilePath)))
  | [] => return []
  | r :: rs => do
    let first ← Run.outcome (a.perform (.ofRequest? r) directory false)
    return first :: (← performEach a directory rs)

variable {a : ThemeAction} {l : Location} {w₀ w v w' : World}

/-! ## What is planned stays the same -/

/-- What is planned in `w` is what was planned in `w₀`, and it will stay so while files are created
in the directory at `l`: because the user's templates are somewhere else, because there is none of
the user and none has been taken, or because the bundled one has been taken. -/
inductive KeepsPlans (a : ThemeAction) (l : Location) (w₀ w : World) : Prop
  | found (h : w₀.store.Matches w₀.files w.store w.files) (hapart : w.store.Apart w.files l)
  | waiting (h : w₀.store.Matches w₀.files w.store w.files) (hs : w.store.Reached)
      (huser : w.store.userFile? w.files a.template = none)
  | pinned (h : w₀.store.find? w₀.files a.template =
        .ok ⟨none, themeTemplate (some a.template)⟩)
      (hpins : w.store.Pins a.template (themeTemplate (some a.template)))

namespace KeepsPlans

theorem start (hs : w.store.Reached)
    (hapart : ∀ d ∈ w.store.directory, ∀ m, w.files.locate d = .ok m → m.below? l = none) :
    KeepsPlans a l w w := by
  cases h : w.store.userFile? w.files a.template with
  | none => exact .waiting (.refl _ _) hs h
  | some x => exact .found (.refl _ _) (TemplateStore.apart_of_userFile? h hapart)

theorem plan?_eq (h : KeepsPlans a l w₀ w) (hd : a.defaults.IsValid) (r : ThemeRequest) :
    a.plan? r w.store w.files = a.plan? r w₀.store w₀.files := by
  cases h with
  | found h _ => exact plan?_of_matches h a r
  | waiting h _ _ => exact plan?_of_matches h a r
  | pinned h hpins =>
    cases hg : a.defaults.generate? r with
    | error f => rw [plan?_of_error hg, plan?_of_error hg]
    | ok g =>
      have hbare := (ThemeDefaults.isPortable_of_generate? hd hg).isBareName
      rw [plan?_of_find? (hpins.find? w.files) hg hbare, plan?_of_find? h hg hbare]

theorem of_quiet (h : KeepsPlans a l w₀ w) (hq : World.Quiet w v) : KeepsPlans a l w₀ v := by
  cases h with
  | found h hapart =>
    refine .found (h.trans hq.store) (hapart.of_extends hq.store.directory ?_)
    rw [hq.files]
    exact .refl _
  | waiting h hs huser =>
    exact .waiting (h.trans hq.store) (hq.reached hs) ((hq.store.userFile? _).trans huser)
  | pinned h hpins => exact .pinned h (hq.pins _ _ hpins)

/-- A store that has found the template and has no file of the user has found the bundled one. -/
theorem find?_eq_of_plan? {s : TemplateStore} {fs : FileSystem} {r : ThemeRequest}
    {x : Text × Bytes} (hs : s.Reached) (huser : s.userFile? fs a.template = none)
    (hplan : a.plan? r s fs = .ok x) :
    s.find? fs a.template = .ok ⟨none, themeTemplate (some a.template)⟩ := by
  obtain ⟨g, -, hplan⟩ := Except.bind_eq_ok_iff.mp hplan
  obtain ⟨t, ht, -⟩ := Except.bind_eq_ok_iff.mp hplan
  cases hsource : TemplateStore.bundledSource? a.template with
  | some source => exact find?_bundled hs huser hsource
  | none =>
    have hfind : s.find? fs a.template = .error .notFound := by
      rw [hs.find?_eq_load? huser, TemplateStore.load?, huser]
      simp only [hsource]
    simp [TemplateStore.get?, hfind] at ht

/-- A planned file may be placed in the directory. -/
theorem of_placed (h : KeepsPlans a l w₀ w) (htree : w.files.IsTree) {r : ThemeRequest}
    {x : Text × Bytes} (hplan : a.plan? r w.store w.files = .ok x) (hq : World.Quiet w v)
    (hpins : ∀ t, w.store.find? w.files a.template = .ok ⟨none, t⟩ → v.store.Pins a.template t)
    (hstore : w'.store = v.store) (hkeep : w.files.Extends w'.files)
    (hnew : ∀ m c stamp, w'.files.lookup m = some (.file c stamp) →
      w.files.lookup m = some (.file c stamp) ∨
        ∃ b, m = l.child b ∧ w.files.lookup m = none) :
    KeepsPlans a l w₀ w' := by
  cases h with
  | found h hapart =>
    have hmatch := hq.store
    rw [hq.files] at hmatch
    have hv : v.store.Apart w.files l := hapart.of_extends hmatch.directory (.refl _)
    have hnext := TemplateStore.matches_of_apart htree hkeep hv hnew
    rw [← hstore] at hmatch hnext hv
    exact .found ((h.trans hmatch).trans hnext) (hv.of_extends rfl hkeep)
  | waiting h hs huser =>
    have hfind := find?_eq_of_plan? hs huser hplan
    refine .pinned ((h.find? _).symm.trans hfind) ?_
    rw [hstore]
    exact hpins _ hfind
  | pinned h hkept =>
    refine .pinned h ?_
    rw [hstore]
    exact hq.pins _ _ hkept

end KeepsPlans

/-! ## A step and a run -/

/-- A moment of a run that started in `w₀`: the directory at `d` can be made, which leads to `l` and
leaves `made`. -/
structure Stage (a : ThemeAction) (d : FilePath) (l : Location) (w₀ : World) (made : FileSystem)
    (w : World) : Prop where
  tree : w.files.IsTree
  opens : Opens d w.files made l
  plans : KeepsPlans a l w₀ w

/-- The plans for requests. -/
abbrev plans (a : ThemeAction) (w : World) (r : ThemeRequest) : Except Failure (Text × Bytes) :=
  a.plan? r w.store w.files

theorem isEncodable_of_plans (hd : a.defaults.IsValid) (w : World) (r : ThemeRequest) (n : Text)
    (bytes : Bytes) (h : a.plans w r = .ok (n, bytes)) : n.IsEncodable :=
  (isPortable_of_plan? hd h).isLegal.isEncodable

section

variable {directory : Text} {made : FileSystem}

theorem Stage.of_quiet {d : FilePath} (h : Stage a d l w₀ made w) (hq : World.Quiet w v) :
    Stage a d l w₀ made v where
  tree := hq.files ▸ h.tree
  opens := hq.files ▸ h.opens
  plans := h.plans.of_quiet hq

theorem Stage.grows {d : FilePath} (h : Stage a d l w₀ made w) : Grows d w.files made :=
  grows_of_makeDirectories h.opens.makes

/-- A run starts in a directory that can be made and is not among the user's templates. -/
theorem Stage.start {d : FilePath} (htree : w.files.IsTree) (hs : w.store.Reached)
    (hmade : w.files.makeDirectories d = (made, .ok ())) (hl : made.locate d = .ok l)
    (hapart : ∀ dir ∈ w.store.directory, ∀ m, made.locate dir = .ok m → m.below? l = none) :
    Stage a d l w made w := by
  obtain ⟨l', hopens⟩ := exists_opens hmade
  cases hopens.locate.symm.trans hl
  have hgrows := grows_of_makeDirectories hmade
  exact ⟨htree, hopens, .start hs fun dir hdir m hm =>
    hapart dir hdir m (locate_of_keepsDirectories hgrows.keeps.keepsDirectories hm)⟩

/-- **A step of a run is a turn.** -/
theorem Stage.exists_turn (hd : a.defaults.IsValid)
    (h : Stage a (.ofText directory) l w₀ made w) (r : Option ThemeRequest) :
    ∃ o x w', (a.perform (.ofRequest? r) directory false).result w = (o, w') ∧
      Turn (a.plans w₀) (.ofText directory) l made r o x ∧
      w'.files = (if planned (a.plans w₀) r then made.add x else w.files) ∧
      w'.registered = w.registered ++ (returned o).toList ∧
      Stage a (.ofText directory) l w₀ (made.add x) w' := by
  cases r with
  | none =>
    have hq : World.Quiet w _ := Run.isQuiet_note LogLevel.info Logger.action
      "New theme action cancelled; nothing was written." none w
    exact ⟨.ok none, none, _, rfl, .cancelled, rfl, (List.append_nil _).symm, h.of_quiet hq⟩
  | some r =>
    have hrequest : ((a.request (.ofRequest? (some r))).result w).1 = .ok (some r) := rfl
    have hplans : a.plan? r w.store w.files = a.plans w₀ r := h.plans.plan?_eq hd r
    rcases hplan : a.plan? r w.store w.files with f | ⟨n, bytes⟩
    · obtain ⟨w', hw', hq⟩ := perform_of_plan_error directory false hrequest hplan
      rw [hplans] at hplan
      refine ⟨.error f, none, w', hw', .failed hplan, ?_, ?_, h.of_quiet hq⟩
      · rw [planned, hplan]
        exact hq.files
      · rw [hq.registered]
        exact (List.append_nil _).symm
    · obtain ⟨placed, o, v, w', hq, hpins, hplaced, ho, hw', hstore, hregistered⟩ :=
        perform_of_plan_ok directory false hrequest hplan
      have hname := isPortable_of_plan? hd hplan
      have hplan₀ : a.plans w₀ r = .ok (n, bytes) := hplans ▸ hplan
      obtain ⟨x, hturn, hfiles⟩ := Turn.exists_of_placed hplan₀ h.opens hname hplaced
      rw [← ho] at hturn
      refine ⟨o, x, w', hw', hturn, ?_, hregistered, ?_, ?_, ?_⟩
      · rw [planned, hplan₀]
        exact hfiles
      · rw [hfiles]
        exact hturn.isTree_add (h.grows.tree h.tree) h.opens.lookup
      · rw [hfiles]
        exact h.opens.again hturn.extends_add.keepsDirectories
      · refine h.plans.of_placed h.tree hplan hq hpins hstore ?_ fun m c stamp hm => ?_
        · rw [hfiles]
          exact h.grows.keeps.trans hturn.extends_add
        · rw [hfiles] at hm
          exact hturn.lookup_file_of_grows h.grows hm

/-- **A run takes turns.** -/
theorem Stage.exists_turns (hd : a.defaults.IsValid)
    (h : Stage a (.ofText directory) l w₀ made w) (rs : List (Option ThemeRequest)) :
    ∃ os made' w', (a.performEach directory rs).result w = (.ok os, w') ∧
      Turns (a.plans w₀) (.ofText directory) l made rs os made' ∧
      w'.files = (if rs.any (planned (a.plans w₀)) then made' else w.files) ∧
      w'.registered = w.registered ++ os.filterMap returned ∧
      Stage a (.ofText directory) l w₀ made' w' := by
  induction rs generalizing made w with
  | nil => exact ⟨[], made, w, rfl, .nil made, rfl, (List.append_nil _).symm, h⟩
  | cons r rs ih =>
    obtain ⟨o, x, w₁, hr, hturn, hfiles₁, hregistered₁, h₁⟩ := h.exists_turn hd r
    obtain ⟨os, made', w', hrs, hturns, hfiles, hregistered, h'⟩ := ih h₁
    refine ⟨o :: os, made', w', ?_, .cons hturn hturns, ?_, ?_, h'⟩
    · have hfirst : (Run.outcome (a.perform (.ofRequest? r) directory false)).result w =
          (.ok o, w₁) := by
        rw [Run.result_outcome, hr]
      rw [performEach, Run.result_bind_ok hfirst, Run.result_bind_ok hrs]
      rfl
    · rw [hfiles, hfiles₁, List.any_cons]
      cases hany : rs.any (planned (a.plans w₀)) with
      | true => simp
      | false =>
        rw [hturns.eq_of_not_planned hany]
        simp
    · rw [hregistered, hregistered₁, List.append_assoc]
      cases ho : returned o <;> simp [ho]

/-- Two requests for different names can change places. -/
theorem Stage.exists_swap (hd : a.defaults.IsValid) (h : Stage a (.ofText directory) l w made w)
    {r₁ r₂ : ThemeRequest} (hne : ∀ g₁ g₂, a.defaults.generate? r₁ = .ok g₁ →
      a.defaults.generate? r₂ = .ok g₂ → g₁.fileName ≠ g₂.fileName) :
    ∃ o₁ o₂ w₁ w₂, (a.performEach directory [some r₁, some r₂]).result w = (.ok [o₁, o₂], w₁) ∧
      (a.performEach directory [some r₂, some r₁]).result w = (.ok [o₂, o₁], w₂) ∧
      w₁.files.SameContent w₂.files := by
  obtain ⟨os, made₁, w₁, hw₁, hturns₁, hfiles₁, -⟩ := h.exists_turns hd [some r₁, some r₂]
  obtain ⟨os', made₂, w₂, hw₂, hturns₂, hfiles₂, -⟩ := h.exists_turns hd [some r₂, some r₁]
  have hnames : ∀ r ∈ some r₁, ∀ t ∈ some r₂, ∀ m n u u', a.plans w r = .ok (m, u) →
      a.plans w t = .ok (n, u') → m ≠ n := by
    rintro _ ⟨⟩ _ ⟨⟩ m n u u' hm hn
    obtain ⟨g₁, hg₁, rfl, -⟩ := exists_of_plan?_eq_ok hm
    obtain ⟨g₂, hg₂, rfl, -⟩ := exists_of_plan?_eq_ok hn
    exact hne g₁ g₂ hg₁ hg₂
  obtain ⟨o₁, o₂, rfl, rfl, hsame⟩ := hturns₁.swap (isEncodable_of_plans hd w) hnames hturns₂
  refine ⟨o₁, o₂, w₁, w₂, hw₁, hw₂, ?_⟩
  -- the directory is made in both orders or in neither
  have hany : [some r₂, some r₁].any (planned (a.plans w)) =
      [some r₁, some r₂].any (planned (a.plans w)) := by
    simp [Bool.or_comm]
  rw [hfiles₁, hfiles₂, hany]
  split
  · exact hsame
  · exact fun m => change?_self _

/-! ## What a run does -/

/-- **The first writer wins**: the outcomes `os` of the requests `rs`, and the world `w'` they leave
in place of `w`. The directory leads to `l`, and `made` is there once it has been made. -/
structure FirstWins (a : ThemeAction) (d : FilePath) (l : Location) (made : FileSystem) (w : World)
    (rs : List (Option ThemeRequest)) (os : List (Except Failure (Option FilePath)))
    (w' : World) : Prop where
  length : os.length = rs.length
  cancelled : ∀ i : Nat, rs[i]? = some none → os[i]? = some (.ok none)
  failed : ∀ (i : Nat) r f, rs[i]? = some (some r) → a.plans w r = .error f →
    os[i]? = some (.error f)
  won_iff : ∀ (i : Nat) r n bytes, rs[i]? = some (some r) → a.plans w r = .ok (n, bytes) →
    (os[i]? = some (.ok (some (d.child n))) ↔ made.lookup (l.child n.bytes) = none ∧
      ∀ j < i, os[j]? ≠ some (.ok (some (d.child n))))
  lost : ∀ (i : Nat) r n bytes, rs[i]? = some (some r) → a.plans w r = .ok (n, bytes) →
    os[i]? ≠ some (.ok (some (d.child n))) → os[i]? = some (.error (.fileExists (d.child n)))
  keeps : w.files.Extends w'.files
  written : ∀ (i : Nat) r n bytes, rs[i]? = some (some r) → a.plans w r = .ok (n, bytes) →
    os[i]? = some (.ok (some (d.child n))) →
    ∃ stamp, w'.files.lookup (l.child n.bytes) = some (.file bytes stamp)
  added : ∀ m e, w.files.lookup m = none → w'.files.lookup m = some e →
    (e = .directory ∧ w'.files.OnPath d m) ∨
    ∃ (i : Nat) (r : ThemeRequest) (n : Text) (bytes : Bytes) (stamp : Nat),
      rs[i]? = some (some r) ∧ a.plans w r = .ok (n, bytes) ∧
      os[i]? = some (.ok (some (d.child n))) ∧ m = l.child n.bytes ∧ e = .file bytes stamp
  registered : w'.registered = w.registered ++ os.filterMap returned
  nodup : (os.filterMap returned).Nodup

theorem FirstWins.of_turns {d : FilePath} {made' : FileSystem} {rs : List (Option ThemeRequest)}
    {os : List (Except Failure (Option FilePath))} (hd : a.defaults.IsValid)
    (hgrows : Grows d w.files made) (h : Turns (a.plans w) d l made rs os made')
    (hfiles : w'.files = if rs.any (planned (a.plans w)) then made' else w.files)
    (hregistered : w'.registered = w.registered ++ os.filterMap returned)
    (hos : ∀ o ∈ os, ∀ e, o ≠ .error (.writing e)) : FirstWins a d l made w rs os w' where
  length := h.length_eq
  cancelled i hi := h.getElem?_of_cancelled (isEncodable_of_plans hd w) hi
  failed i r f hr hplan := h.getElem?_of_plan_error (isEncodable_of_plans hd w) hr hplan
  won_iff i r n bytes hr hplan := by
    rw [h.getElem?_of_plan (isEncodable_of_plans hd w) hos hr hplan]
    split
    · exact iff_of_true rfl ‹_›
    · exact iff_of_false (by simp) ‹_›
  lost i r n bytes hr hplan hne := by
    rw [h.getElem?_of_plan (isEncodable_of_plans hd w) hos hr hplan] at hne ⊢
    split at hne
    · exact absurd rfl hne
    · rw [if_neg ‹_›]
  keeps := by
    rw [hfiles]
    split
    · exact hgrows.keeps.trans h.extends_made
    · exact .refl _
  written i r n bytes hr hplan hi := by
    have hany : rs.any (planned (a.plans w)) = true :=
      List.any_eq_true.mpr ⟨_, List.mem_of_getElem? hr, by rw [planned, hplan]; rfl⟩
    rw [hfiles, if_pos hany]
    exact h.exists_lookup_eq (isEncodable_of_plans hd w) hr hplan hi
  added m e hnone he := by
    rw [hfiles] at he
    split at he
    · rw [hfiles, if_pos ‹_›]
      rcases h.lookup_eq_some he with hmade | hwon
      · obtain ⟨hdir, hpath⟩ := hgrows.added m e hnone hmade
        exact .inl ⟨hdir, hpath.of_keepsDirectories h.extends_made.keepsDirectories⟩
      · exact .inr hwon
    · rw [hnone] at he
      cases he
  registered := hregistered
  nodup := h.nodup_returned (isEncodable_of_plans hd w)

end

end ThemeAction

open ThemeAction

/-- **First writer wins.** Performing the action for several requests with one directory, which can
be made and is not among the user's templates, does what `FirstWins` says, unless writing fails. A
request that gets no file changes none, and requests for different names can change places. -/
theorem performEach_firstWins {v : Value} {s : Settings} {hasRegistry : Bool} {directory : Text}
    {w : World} {made : FileSystem} {l : Location} (hv : Settings.check v = .valid s)
    (htree : w.files.IsTree) (hs : w.store.Reached)
    (hmade : w.files.makeDirectories (.ofText directory) = (made, .ok ()))
    (hl : made.locate (.ofText directory) = .ok l)
    (hapart : ∀ d ∈ w.store.directory, ∀ m, made.locate d = .ok m → m.below? l = none) :
    let a := ThemeAction.ofSettings s hasRegistry
    let d := FilePath.ofText directory
    (¬ d.Climbs ∨ w.files.hasDirectory d = true →
      ∀ b, made.lookup (l.child b) = w.files.lookup (l.child b)) ∧
    (∀ rs, ∃ os w', (a.performEach directory rs).result w = (.ok os, w') ∧
      ((∀ o ∈ os, ∀ e, o ≠ .error (.writing e)) → a.FirstWins d l made w rs os w') ∧
      ∀ r o w'', (a.perform (.ofRequest? r) directory false).result w' = (o, w'') →
        returned o = none → ∀ m c stamp,
          w''.files.lookup m = some (.file c stamp) ↔ w'.files.lookup m = some (.file c stamp)) ∧
    ∀ r₁ r₂, (∀ g₁ g₂, a.defaults.generate? r₁ = .ok g₁ → a.defaults.generate? r₂ = .ok g₂ →
        g₁.fileName ≠ g₂.fileName) →
      ∃ o₁ o₂ w₁ w₂, (a.performEach directory [some r₁, some r₂]).result w = (.ok [o₁, o₂], w₁) ∧
        (a.performEach directory [some r₂, some r₁]).result w = (.ok [o₂, o₁], w₂) ∧
        w₁.files.SameContent w₂.files := by
  intro a d
  have hd : a.defaults.IsValid := Settings.isValid_of_check hv
  have hgrows := grows_makeDirectories w.files d
  rw [hmade] at hgrows
  have hstage : Stage a d l w made w := .start htree hs hmade hl hapart
  refine ⟨fun hplain b => ?_, fun rs => ?_, fun r₁ r₂ hne => hstage.exists_swap hd hne⟩
  · rcases hplain with hclimbs | hdir
    · exact hgrows.lookup_child hclimbs hl b
    · rw [makeDirectories_eq_self hdir] at hmade
      cases hmade
      rfl
  · obtain ⟨os, made', w', hw', hturns, hfiles, hregistered, hstage'⟩ :=
      hstage.exists_turns hd rs
    refine ⟨os, w', hw', FirstWins.of_turns hd hgrows hturns hfiles hregistered, ?_⟩
    intro r o w'' hr ho m c stamp
    obtain ⟨o', x, w₁, hr', hturn, hfiles₁, -⟩ := hstage'.exists_turn hd r
    cases hr.symm.trans hr'
    rw [hfiles₁, hturn.eq_none_of_returned ho, add]
    split
    · exact hstage'.grows.lookup_file_iff
    · exact Iff.rfl

/-- Two names for one file, and a user who has cancelled in between. -/
theorem performEach_firstWins_taken :
    let a := ThemeAction.ofSettings {} true
    let w := sampleWorld "tpl"
    let d := FilePath.ofText "out"
    let made := (w.files.makeDirectories d).1
    let l : Location := ⟨.working 0, [Text.bytes "out"]⟩
    let rs : List (Option ThemeRequest) := [some ⟨"A", true⟩, none, some ⟨"A/", false⟩]
    let os : List (Except Failure (Option FilePath)) := [.ok (some (d.child "A.theme.json")),
      .ok none, .error (.fileExists (d.child "A.theme.json"))]
    Settings.check (.mapping []) = .valid {} ∧ w.files.IsTree ∧ w.store.Reached ∧
    w.files.makeDirectories d = (made, .ok ()) ∧ made.locate d = .ok l ∧
    (∀ dir ∈ w.store.directory, ∀ m, made.locate dir = .ok m → m.below? l = none) ∧
    (∀ o ∈ os, ∀ e, o ≠ .error (.writing e)) ∧
    ∃ w', (a.performEach "out" rs).result w = (.ok os, w') ∧ a.FirstWins d l made w rs os w' := by
  intro a w d made l rs os
  have hv : Settings.check (.mapping []) = .valid {} := rfl
  have htree : w.files.IsTree := isTree_sampleWorld _
  have hs : w.store.Reached := .new _
  have hmade : w.files.makeDirectories d = (made, .ok ()) := Prod.ext rfl (by decide)
  have hl : made.locate d = .ok l := by decide
  have hapart : ∀ dir ∈ w.store.directory, ∀ m, made.locate dir = .ok m → m.below? l = none := by
    rintro dir ⟨⟩ m hm
    have htpl : made.locate (.ofText "tpl") = .ok ⟨.working 0, [Text.bytes "tpl"]⟩ := by
      decide
    cases htpl.symm.trans hm
    decide
  have hos : ∀ o ∈ os, ∀ e, o ≠ .error (.writing e) := by
    simp [os]
  have hresult : ((a.performEach "out" rs).result w).1 = .ok os := by decide +kernel
  obtain ⟨os', w', hw', hfirst, -⟩ :=
    (performEach_firstWins (s := {}) hv htree hs hmade hl hapart).2.1 rs
  rw [hw'] at hresult
  cases hresult
  exact ⟨hv, htree, hs, hmade, hl, hapart, hos, w', hw', hfirst hos⟩

/-- **A path that goes up can take the name of the file itself**: the directory that is made on the
way lies where the file would have come. -/
theorem perform_made_in_place :
    let a := ThemeAction.ofSettings {} true
    let r : ThemeRequest := ⟨"A", true⟩
    let d : FilePath := .ofText "out/A.theme.json/.."
    let made := (({} : FileSystem).makeDirectories d).1
    let l : Location := ⟨.working 0, [Text.bytes "out"]⟩
    Settings.check (.mapping []) = .valid {} ∧
    (({} : FileSystem).makeDirectories d).2 = .ok () ∧ made.locate d = .ok l ∧
    a.plans {} r = .ok ("A.theme.json", (themeText "A" true).bytes) ∧
    ({} : FileSystem).lookup (l.child (Text.bytes "A.theme.json")) = none ∧
    ((a.perform (.given r) "out/A.theme.json/.." false).result {}).1 =
      .error (.fileExists (d.child "A.theme.json")) :=
  ⟨rfl, by decide +kernel⟩

end ThemeForge

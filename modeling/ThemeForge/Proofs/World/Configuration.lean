import ThemeForge.Proofs.Except
import ThemeForge.Proofs.Schema.Checked
import ThemeForge.Proofs.Text.Utf8
import ThemeForge.Proofs.Value.Mapping
import ThemeForge.Proofs.World.Run
import ThemeForge.World.Configuration

/-!
# Loading a configuration

Loading gives a configuration or says what is wrong with it, except for four causes that go past
it: a directory in place of the file, bytes that are no text, a text on which the reader of the
format fails instead of reporting it, and a section that cannot take an override.

* `Configuration.IsSection`, `Configuration.exists_section?_iff`: the values that hold entries;
* `Configuration.Accepts`, `Configuration.exists_overlay?_iff`: when overrides can be applied;
* `Configuration.IsAnswer`, `Configuration.IsReadable`: orderly outcomes, and the files that have
  one;
* `Run.result_configuration`, `Run.result_settings`, `Run.result_reloadConfiguration`: loading in
  the course of a run; `Run.result_configuration_kept`: what has been loaded is kept;
* **`Configuration.isAnswer_load?_iff`**: exactly when loading ends in an orderly way.
-/

namespace ThemeForge

namespace Configuration

/-! ## Sections -/

/-- An item that gives an entry: a key and a value, in a sequence of two. -/
def IsPair (x : Value) : Prop := ∃ key v, x.items? = some [key, v] ∧ key.isKey = true

/-- A value that holds entries: a mapping, a sequence of pairs, or what counts as false. -/
inductive IsSection : Value → Prop
  | empty {v : Value} (h : v.isTruthy = false) : IsSection v
  | mapping (m : Value.Mapping) : IsSection (.mapping m)
  | pairs {v : Value} {items : List Value} (h : v.items? = some items)
      (hpairs : ∀ x ∈ items, IsPair x) : IsSection v

theorem exists_entriesOf?_iff (n : Nat) (m : Value.Mapping) (items : List Value) :
    (∃ r, entriesOf? n m items = .ok r) ↔ ∀ x ∈ items, IsPair x := by
  induction items generalizing n m with
  | nil => simp [entriesOf?]
  | cons x items ih =>
    rw [List.forall_mem_cons, entriesOf?]
    split
    · rename_i hx
      simp [IsPair, hx]
    · rename_i key v hx
      by_cases hkey : key.isKey = true
      · simp [IsPair, hx, hkey, ih]
      · simp [IsPair, hx, hkey]
    · rename_i items' hlen hx
      refine iff_of_false (by simp) ?_
      rintro ⟨⟨key, v, hpair, -⟩, -⟩
      rw [hx] at hpair
      exact hlen key v (Option.some.inj hpair)

theorem exists_section?_iff (v : Value) : (∃ m, section? v = .ok m) ↔ IsSection v := by
  unfold section?
  by_cases htrue : v.isTruthy = true
  · simp only [htrue, Bool.not_true, Bool.false_eq_true, if_false]
    split
    · exact iff_of_true ⟨_, rfl⟩ (.mapping _)
    · rename_i hmapping
      split
      · rename_i items hitems
        rw [exists_entriesOf?_iff]
        refine ⟨.pairs hitems, fun h => ?_⟩
        cases h with
        | empty h => rw [htrue] at h; exact nomatch h
        | mapping m => exact absurd rfl (hmapping m)
        | pairs h hpairs =>
          cases hitems.symm.trans h
          exact hpairs
      · rename_i hitems
        refine iff_of_false (by simp) fun h => ?_
        cases h with
        | empty h => rw [htrue] at h; exact nomatch h
        | mapping m => exact absurd rfl (hmapping m)
        | pairs h _ => rw [hitems] at h; exact nomatch h
  · rw [Bool.not_eq_true] at htrue
    simp only [htrue, Bool.not_false, if_true]
    exact iff_of_true ⟨_, rfl⟩ (.empty htrue)

/-! ## Overrides -/

/-- The section of a name can take an override, if there is one. -/
def Accepts (m : Value.Mapping) (sectionName : Text) (value : Option Text) : Prop :=
  ∀ t ∈ value, t ≠ [] → IsSection ((m.getText? sectionName).getD .null)

theorem exists_setIn?_iff (sectionName key : Text) (value : Option Text) (m : Value.Mapping) :
    (∃ r, setIn? sectionName key value m = .ok r) ↔ Accepts m sectionName value := by
  unfold setIn?
  split
  · exact iff_of_true ⟨_, rfl⟩ fun _ ht => absurd ht (Option.not_mem_none _)
  · exact iff_of_true ⟨_, rfl⟩ fun t ht hne => absurd (Option.some.inj ht).symm hne
  · rename_i t hne
    have haccepts : Accepts m sectionName (some t) ↔
        IsSection ((m.getText? sectionName).getD .null) := by
      refine ⟨fun h => h t rfl fun ht => hne ?_, fun h _ _ _ => h⟩
      rw [ht]
    rw [haccepts, ← exists_section?_iff]
    cases section? ((m.getText? sectionName).getD .null) with
    | ok entries => exact iff_of_true ⟨_, rfl⟩ ⟨_, rfl⟩
    | error f => exact iff_of_false (nomatch ·.choose_spec) (nomatch ·.choose_spec)

/-- An override leaves the other sections as they are. -/
theorem getText?_setIn? {sectionName key other : Text} {value : Option Text}
    {m m' : Value.Mapping} (h : setIn? sectionName key value m = .ok m')
    (hne : sectionName ≠ other) : m'.getText? other = m.getText? other := by
  unfold setIn? at h
  split at h
  · cases h
    rfl
  · cases h
    rfl
  · obtain ⟨entries, -, h⟩ := Except.bind_eq_ok_iff.mp h
    cases h
    rw [Value.Mapping.getText?_put, if_neg hne]

theorem exists_overlay?_iff (o : Overrides) (m : Value.Mapping) : (∃ r, overlay? o m = .ok r) ↔
    Accepts m "logging" o.level ∧ Accepts m "templates" o.directory := by
  unfold overlay?
  simp only [Except.bind_eq_ok_iff]
  constructor
  · rintro ⟨r, m', hlogging, htemplates⟩
    have hother := getText?_setIn? hlogging (show ("logging" : Text) ≠ "templates" by decide)
    refine ⟨(exists_setIn?_iff _ _ _ _).mp ⟨m', hlogging⟩, ?_⟩
    have h := (exists_setIn?_iff _ _ _ _).mp ⟨r, htemplates⟩
    rwa [Accepts, hother] at h
  · rintro ⟨hlogging, htemplates⟩
    obtain ⟨m', hm'⟩ := (exists_setIn?_iff "logging" "level" o.level m).mpr hlogging
    have hother := getText?_setIn? hm' (show ("logging" : Text) ≠ "templates" by decide)
    rw [Accepts, ← hother] at htemplates
    obtain ⟨r, hr⟩ := (exists_setIn?_iff "templates" "dir" o.directory m').mpr htemplates
    exact ⟨r, m', hm', hr⟩

/-! ## Orderly outcomes -/

section IsAnswer

variable {α β ε : Type}

/-- A result, or the report of a bad configuration. -/
def IsAnswer (o : Except Failure α) : Prop := (∃ a, o = .ok a) ∨ ∃ f, o = .error (.configuration f)

@[simp] theorem isAnswer_ok (a : α) : IsAnswer (.ok a : Except Failure α) := .inl ⟨a, rfl⟩

@[simp] theorem isAnswer_configuration (f : Failure.Configuration) :
    IsAnswer (.error (.configuration f) : Except Failure α) := .inr ⟨f, rfl⟩

@[simp] theorem not_isAnswer_unhandled (f : Failure.Unhandled) :
    ¬ IsAnswer (.error (.unhandled f) : Except Failure α) := by
  rintro (⟨a, h⟩ | ⟨g, h⟩) <;> exact nomatch h

/-- One step after the other ends in an orderly way if each does that is reached. -/
theorem isAnswer_bind_iff {x : Except Failure α} {f : α → Except Failure β} :
    IsAnswer (x >>= f) ↔ IsAnswer x ∧ ∀ a, x = .ok a → IsAnswer (f a) := by
  rcases x with e | a
  · simp [IsAnswer]
  · simp

theorem isAnswer_mapError_configuration (x : Except ε α) (f : ε → Failure.Configuration) :
    IsAnswer (x.mapError fun e => .configuration (f e)) := by
  rcases x with e | a <;> simp

theorem isAnswer_mapError_unhandled_iff (x : Except ε α) (f : ε → Failure.Unhandled) :
    IsAnswer (x.mapError fun e => .unhandled (f e)) ↔ ∃ a, x = .ok a := by
  rcases x with e | a <;> simp

end IsAnswer

/-- The failures of loading: a bad configuration, or one that nothing handles. -/
def IsCause (e : Failure) : Prop := (∃ f, e = .configuration f) ∨ ∃ f, e = .unhandled f

/-! ## The files -/

/-- The file of the configuration. -/
def path : FilePath := .ofText Failure.configurationFile

/-- The file of assignments beside it. -/
def assignmentsPath : FilePath := .ofText assignmentsFile

/-- The text in bytes, with all line ends as line feeds. -/
def IsTextOf (t : Text) (bytes : Bytes) : Prop :=
  ∃ written, Utf8.decode? bytes = .ok written ∧ t = written.universalNewlines

theorem textOf?_eq_ok_iff {bytes : Bytes} {t : Text} :
    textOf? bytes = .ok t ↔ IsTextOf t bytes := by
  unfold textOf? IsTextOf
  cases Utf8.decode? bytes with
  | error f => simp
  | ok written => simp [eq_comm]

theorem isAnswer_textOf?_iff {bytes : Bytes} :
    IsAnswer (textOf? bytes) ↔ ∃ t, IsTextOf t bytes := by
  simp only [← textOf?_eq_ok_iff]
  unfold textOf?
  cases Utf8.decode? bytes with
  | error f => simp
  | ok written => simp

/-- The file of assignments, if there is one, is a text. -/
def HasAssignments (fs : FileSystem) : Prop :=
  ∀ bytes stamp, fs.file? assignmentsPath = some (bytes, stamp) → ∃ t, IsTextOf t bytes

section Format

variable [Format]

/-- The file of the configuration, if there is one, is a text on which the reader does not fail. -/
structure IsReadable (fs : FileSystem) : Prop where
  notDirectory : fs.find? path ≠ .ok (some .directory)
  isText : ∀ bytes stamp, fs.find? path = .ok (some (.file bytes stamp)) → ∃ t, IsTextOf t bytes
  fits : ∀ bytes stamp t, fs.find? path = .ok (some (.file bytes stamp)) → IsTextOf t bytes →
    ∀ c, Format.load? t ≠ .error (.crash c)

theorem isAnswer_fromFile?_iff (fs : FileSystem) : IsAnswer (fromFile? fs) ↔ IsReadable fs := by
  have hpath : FilePath.ofText Failure.configurationFile = path := rfl
  unfold fromFile?
  simp only [hpath]
  split
  · rename_i bytes stamp hfile
    rw [isAnswer_bind_iff, isAnswer_textOf?_iff]
    constructor
    · rintro ⟨htext, hload⟩
      refine ⟨fun hdir => ?_, fun bytes' stamp' h => ?_, fun bytes' stamp' t h ht f hf => ?_⟩
      · rw [hfile] at hdir
        exact nomatch hdir
      · cases hfile.symm.trans h
        exact htext
      · cases hfile.symm.trans h
        have := hload t (textOf?_eq_ok_iff.mpr ht)
        rw [hf] at this
        exact not_isAnswer_unhandled _ this
    · intro h
      refine ⟨h.isText bytes stamp hfile, fun t ht => ?_⟩
      have hfits := h.fits bytes stamp t hfile (textOf?_eq_ok_iff.mp ht)
      split
      · exact isAnswer_configuration _
      · rename_i f hf
        exact absurd hf (hfits f)
      · exact isAnswer_ok _
      · split
        · exact isAnswer_configuration _
        · exact isAnswer_ok _
  · rename_i hdir
    exact iff_of_false (not_isAnswer_unhandled _) fun h => h.notDirectory hdir
  · rename_i hfile hdir
    exact iff_of_true (isAnswer_ok _)
      ⟨hdir, fun bytes stamp h => absurd h (hfile bytes stamp),
        fun bytes stamp _ h => absurd h (hfile bytes stamp)⟩

omit [Format] in
theorem isAnswer_overrides?_iff (fs : FileSystem) (environment : Variables) :
    IsAnswer (overrides? fs environment) ↔ HasAssignments fs := by
  have hpath : FilePath.ofText assignmentsFile = assignmentsPath := rfl
  unfold overrides? HasAssignments
  rw [hpath]
  cases hfile : fs.file? assignmentsPath with
  | none => simp
  | some file =>
    simp only [isAnswer_bind_iff, isAnswer_textOf?_iff, Option.some.injEq]
    constructor
    · rintro ⟨htext, -⟩ bytes stamp rfl
      exact htext
    · exact fun h => ⟨h _ _ rfl, fun _ _ => isAnswer_ok _⟩

/-- The configuration can be read, and it can take the overrides of the environment and of the file
of assignments. -/
structure IsLoadable (fs : FileSystem) (environment : Variables) : Prop where
  readable : IsReadable fs
  assigned : ∀ m, fromFile? fs = .ok m → HasAssignments fs
  accepts : ∀ m o, fromFile? fs = .ok m → overrides? fs environment = .ok o →
    Accepts m "logging" o.level ∧ Accepts m "templates" o.directory

/-- **Exactly when a configuration is loaded in an orderly way.** -/
theorem isAnswer_read?_iff (fs : FileSystem) (environment : Variables) :
    IsAnswer (read? fs environment) ↔ IsLoadable fs environment := by
  unfold read?
  simp only [isAnswer_bind_iff, isAnswer_fromFile?_iff, isAnswer_overrides?_iff,
    isAnswer_mapError_unhandled_iff, exists_overlay?_iff]
  constructor
  · rintro ⟨hreadable, h⟩
    exact ⟨hreadable, fun m hm => (h m hm).1, fun m o hm ho => (h m hm).2 o ho⟩
  · rintro ⟨hreadable, hassigned, haccepts⟩
    exact ⟨hreadable, fun m hm => ⟨hassigned m hm, fun o ho => haccepts m o hm ho⟩⟩

/-- The settings for given files and variables. -/
def load? (fs : FileSystem) (environment : Variables) : Except Failure Settings :=
  read? fs environment >>= settings?

/-- Loading settings goes past an orderly answer only where loading the configuration does. -/
theorem isAnswer_load?_iff (fs : FileSystem) (environment : Variables) :
    IsAnswer (load? fs environment) ↔ IsLoadable fs environment := by
  rw [load?, isAnswer_bind_iff, isAnswer_read?_iff]
  exact and_iff_left fun m _ => isAnswer_mapError_configuration _ _

omit [Format] in
theorem isCause_of_textOf? {bytes : Bytes} {e : Failure} (h : textOf? bytes = .error e) :
    IsCause e := by
  unfold textOf? at h
  split at h
  · exact nomatch h
  · cases h
    exact .inr ⟨_, rfl⟩

theorem isCause_of_fromFile? {fs : FileSystem} {e : Failure} (h : fromFile? fs = .error e) :
    IsCause e := by
  unfold fromFile? at h
  simp only at h
  split at h
  · rcases Except.bind_eq_error_iff.mp h with h | ⟨t, -, h⟩
    · exact isCause_of_textOf? h
    · split at h
      · cases h
        exact .inl ⟨_, rfl⟩
      · cases h
        exact .inr ⟨_, rfl⟩
      · exact nomatch h
      · split at h
        · cases h
          exact .inl ⟨_, rfl⟩
        · exact nomatch h
  · cases h
    exact .inr ⟨_, rfl⟩
  · exact nomatch h

theorem isCause_of_read? {fs : FileSystem} {environment : Variables} {e : Failure}
    (h : read? fs environment = .error e) : IsCause e := by
  rcases Except.bind_eq_error_iff.mp h with h | ⟨m, -, h⟩
  · exact isCause_of_fromFile? h
  · rcases Except.bind_eq_error_iff.mp h with h | ⟨o, -, h⟩
    · unfold overrides? at h
      split at h
      · rcases Except.bind_eq_error_iff.mp h with h | ⟨t, -, h⟩
        · exact isCause_of_textOf? h
        · exact nomatch h
      · exact nomatch h
    · obtain ⟨f, -, rfl⟩ := Except.mapError_eq_error_iff.mp h
      exact .inr ⟨_, rfl⟩

theorem isCause_of_load? {fs : FileSystem} {environment : Variables} {e : Failure}
    (h : load? fs environment = .error e) : IsCause e := by
  rcases Except.bind_eq_error_iff.mp h with h | ⟨m, -, h⟩
  · exact isCause_of_read? h
  · obtain ⟨ps, -, rfl⟩ := Except.mapError_eq_error_iff.mp h
    exact .inl ⟨_, rfl⟩

/-- What is not answered is a failure that nothing handles. -/
theorem exists_of_not_isAnswer_load? {fs : FileSystem} {environment : Variables}
    (h : ¬ IsAnswer (load? fs environment)) :
    ∃ f, load? fs environment = .error (.unhandled f) := by
  cases hload : load? fs environment with
  | ok s => exact absurd (hload ▸ isAnswer_ok s) h
  | error e =>
    rw [hload] at h
    rcases isCause_of_load? hload with ⟨c, rfl⟩ | ⟨f, rfl⟩
    · exact absurd (isAnswer_configuration c) h
    · exact ⟨f, rfl⟩

theorem isValid_of_settings? {m : Value.Mapping} {s : Settings} (h : settings? m = .ok s) :
    s.themes.IsValid := by
  unfold settings? at h
  rw [Except.mapError_eq_ok_iff] at h
  cases hc : Settings.check (.mapping m) with
  | valid s' =>
    rw [hc] at h
    cases h
    exact Settings.isValid_of_check hc
  | invalid ps =>
    rw [hc] at h
    exact nomatch h

theorem isValid_of_load? {fs : FileSystem} {environment : Variables} {s : Settings}
    (h : load? fs environment = .ok s) : s.themes.IsValid := by
  obtain ⟨m, -, hm⟩ := Except.bind_eq_ok_iff.mp h
  exact isValid_of_settings? hm

end Format

end Configuration

/-! ## Loading in the course of a run -/

namespace Run

open ThemeForge.Configuration

variable [Format]

theorem result_configuration {w : World} (h : w.configuration = none) :
    result configuration w = (read? w.files w.environment,
      { w with configuration := (read? w.files w.environment).toOption }) := by
  unfold configuration
  rw [result_bind_ok (result_get w), h]
  simp only [result_bind, result_ofExcept]
  cases read? w.files w.environment with
  | error f =>
    cases w
    cases h
    rfl
  | ok m => rfl

theorem result_settings {w : World} (h : w.configuration = none) :
    result settings w = (load? w.files w.environment,
      { w with configuration := (read? w.files w.environment).toOption }) := by
  unfold settings load?
  rw [result_bind, result_configuration h]
  cases read? w.files w.environment with
  | error f => rfl
  | ok m =>
    simp only [result_ofExcept, Except.mapError_id]
    rfl

theorem result_configuration_kept {w : World} {m : Value.Mapping} (h : w.configuration = some m) :
    result configuration w = (.ok m, w) := by
  unfold configuration
  rw [result_bind_ok (result_get w), h]
  rfl

theorem result_settings_kept {w : World} {m : Value.Mapping} (h : w.configuration = some m) :
    result settings w = (settings? m, w) := by
  unfold settings
  rw [result_bind_ok (result_configuration_kept h), result_ofExcept, Except.mapError_id]

theorem result_reloadConfiguration (w : World) :
    result reloadConfiguration w = (read? w.files w.environment,
      { w with configuration := (read? w.files w.environment).toOption }) := by
  unfold reloadConfiguration forgetConfiguration
  rw [result_bind_ok (result_modify _ w), result_configuration rfl]

/-- Whatever has been loaded before, taking the settings changes nothing but the configuration that
is kept, and gives settings whose defaults obey their rules. -/
theorem exists_result_settings (w : World) : ∃ o c,
    result settings w = (o, { w with configuration := c }) ∧
      ∀ s, o = .ok s → s.themes.IsValid := by
  cases h : w.configuration with
  | none =>
    exact ⟨_, _, result_settings h, fun s hs => isValid_of_load? hs⟩
  | some m =>
    refine ⟨settings? m, some m, ?_, fun s hs => isValid_of_settings? hs⟩
    rw [result_settings_kept h, ← h]

end Run

/-- A world with a configuration file and environment variables. -/
def configuredWorld (t : Text) (environment : Variables) : World where
  files := ({} : FileSystem).putFile ⟨.working 0, [Text.bytes Failure.configurationFile]⟩ t.bytes
  environment := environment

end ThemeForge

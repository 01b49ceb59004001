import ThemeForge.Proofs.Except
import ThemeForge.Proofs.FileName.Stem
import ThemeForge.Proofs.Files.Path
import ThemeForge.Proofs.Schema.Checked
import ThemeForge.Proofs.Value.Mapping
import ThemeForge.Proofs.World.Run

/-!
# What is generated for a request

A request is refused for its name alone; every other request gets a file name that any system
accepts.

* `ThemeDefaults.Refuses`, `ThemeDefaults.isOk_judge`: the names that are refused;
* `FileName.IsPortable`: file names that any system accepts, which are bare names and may be those
  of entries of a directory;
* `ThemeDefaults.generate?_of_refuses`, `ThemeDefaults.generate?_of_not_refuses`: the two outcomes;
* **`generate_portable`**: generating, for all checked defaults and all requests.
-/

namespace ThemeForge

/-- The names that are refused: blank ones, and those longer than the bound after trimming. -/
def ThemeDefaults.Refuses (d : ThemeDefaults) (name : Text) : Prop :=
  (∀ c ∈ name, c.isBlank = true) ∨ ∃ n ∈ d.maxNameLength, n < (name.trim.length : Int)

theorem ThemeDefaults.isOk_judge (d : ThemeDefaults) (name : Text) :
    (d.judge name).isOk = true ↔ ¬ d.Refuses name := by
  rw [Refuses, ← Text.trim_eq_nil_iff, not_or, judge]
  simp only [Theme.judge]
  by_cases hnil : name.trim = []
  · simp [hnil, Verdict.isOk, Verdict.rejected]
  · cases hmax : d.maxNameLength with
    | none => simp [hnil, Verdict.isOk, Verdict.accepted]
    | some n =>
      by_cases hn : n < (name.trim.length : Int) <;>
        simp [hnil, hn, Verdict.isOk, Verdict.rejected, Verdict.accepted]

/-- **A file name that any system accepts**: a safe stem and the extension, with at most as many
bytes as one path component may have, and no device. -/
structure FileName.IsPortable (name : Text) : Prop where
  form : ∃ stem, name = stem ++ extension ∧ IsSafe stem
  encoded : ∃ bytes, name.encode? = .ok bytes ∧ bytes.length ≤ maxBytes
  device : ¬ IsReserved name

namespace FileName.IsPortable

variable {name : Text}

theorem isLegal (h : IsPortable name) : IsLegal name := by
  obtain ⟨stem, rfl, hsafe⟩ := h.form
  exact fun c hc => (List.mem_append.mp hc).elim (hsafe.legal c) (isLegal_extension c)

theorem length_lt (h : IsPortable name) : 2 < name.length := by
  obtain ⟨stem, rfl, -⟩ := h.form
  rw [List.length_append]
  exact Nat.lt_of_lt_of_le (by decide) (Nat.le_add_left extension.length stem.length)

theorem isBareName (h : IsPortable name) : FilePath.isBareName name = true := by
  have hlong := h.length_lt
  refine FilePath.isBareName_iff.mpr ⟨?_, fun hmem => h.isLegal _ hmem (by decide), ?_⟩
  · rintro rfl
    simp at hlong
  · rintro rfl
    exact absurd hlong (by decide)

theorem isEntryName (h : IsPortable name) : FilePath.IsEntryName name name.bytes where
  encoded := h.isLegal.isEncodable.encodeEscaped?
  nameable c hc := ⟨fun h0 => h.isLegal c hc (.inr (.inl (by omega))),
    fun hs => absurd hs (h.isLegal.isEncodable c hc)⟩
  ne_dots hdots := by
    have heq := h.isLegal.isEncodable.encodeEscaped?
    rw [hdots] at heq
    rw [Text.eq_dots_of_encodeEscaped? heq] at h
    exact absurd h.length_lt (by decide)
  length_le := by
    obtain ⟨bytes, hbytes, hle⟩ := h.encoded
    rwa [(Text.encode?_eq_ok_iff.mp hbytes).2] at hle

end FileName.IsPortable

theorem ThemeDefaults.exists_fileName? {d : ThemeDefaults} (hd : d.IsValid) (name : Text) :
    ∃ fileName, d.fileName? name = .ok fileName ∧ FileName.IsPortable fileName := by
  obtain ⟨stem, hstem, hsafe, hres, henc, hlen⟩ :=
    FileName.exists_ofName? hd.replacement_legal name
  exact ⟨_, hstem, ⟨stem, rfl, hsafe⟩, ⟨_, Text.encode?_eq_ok_iff.mpr ⟨henc, rfl⟩, hlen⟩, hres⟩

theorem ThemeDefaults.generate?_of_refuses {d : ThemeDefaults} {r : ThemeRequest}
    (h : d.Refuses r.name) : d.generate? r = .error (.rejected (d.judge r.name)) := by
  have hj : ¬ (d.judge r.name).isOk = true := fun hj => (d.isOk_judge r.name).mp hj h
  rw [generate?, if_neg hj]
  rfl

theorem ThemeDefaults.generate?_of_not_refuses {d : ThemeDefaults} {r : ThemeRequest}
    (h : ¬ d.Refuses r.name) {fileName : Text} (hname : d.fileName? r.name = .ok fileName) :
    d.generate? r = .ok ⟨fileName, Theme.properties r.name r.isDark⟩ := by
  rw [generate?, if_pos ((d.isOk_judge r.name).mpr h), hname]
  rfl

theorem ThemeDefaults.properties_of_generate? {d : ThemeDefaults} {r : ThemeRequest}
    {g : GeneratedFile} (h : d.generate? r = .ok g) :
    g.properties = Theme.properties r.name r.isDark := by
  rw [generate?] at h
  split at h
  · obtain ⟨fileName, -, h⟩ := Except.bind_eq_ok_iff.mp h
    cases h
    rfl
  · exact nomatch h

theorem ThemeDefaults.isPortable_of_generate? {d : ThemeDefaults} (hd : d.IsValid)
    {r : ThemeRequest} {g : GeneratedFile} (h : d.generate? r = .ok g) :
    FileName.IsPortable g.fileName := by
  obtain ⟨fileName, hname, hportable⟩ := d.exists_fileName? hd r.name
  by_cases hr : d.Refuses r.name
  · rw [generate?_of_refuses hr] at h
    exact nomatch h
  · rw [generate?_of_not_refuses hr hname] at h
    cases h
    exact hportable

namespace Run

/-- Generating writes at most a record. -/
theorem result_generate_fst (d : ThemeDefaults) (r : ThemeRequest) (w : World) :
    ((generate d r).result w).1 = (d.generate? r).mapError generateFailure := by
  rw [generate]
  rcases d.generate? r with (_ | _) | _ <;> rfl

end Run

/-- **Generating refuses exactly the blank and the overlong names, and gives every other request
a portable file name**: nothing else fails. -/
theorem generate_portable {v : Value} {d : ThemeDefaults} (hd : ThemeDefaults.check v = .valid d)
    (r : ThemeRequest) (w : World) :
    (d.Refuses r.name →
      ∃ verdict, ((Run.generate d r).result w).1 = .error (.rejected verdict)) ∧
    (¬ d.Refuses r.name →
      ∃ g, ((Run.generate d r).result w).1 = .ok g ∧ FileName.IsPortable g.fileName) := by
  rw [Run.result_generate_fst]
  constructor
  · intro h
    rw [ThemeDefaults.generate?_of_refuses h]
    exact ⟨_, rfl⟩
  · intro h
    obtain ⟨fileName, hname, hportable⟩ :=
      ThemeDefaults.exists_fileName? (ThemeDefaults.isValid_of_check hd) r.name
    rw [ThemeDefaults.generate?_of_not_refuses h hname]
    exact ⟨_, rfl, hportable⟩

/-- A device's name with dots, spaces and an illegal character, and dashes for the latter. -/
theorem generate_portable_con :
    let d : ThemeDefaults := ⟨true, " -", some 12⟩
    ThemeDefaults.check (.mapping [(.text "replacement", .text " -"),
      (.text "max_name_length", .int 12)]) = .valid d ∧
    ¬ d.Refuses " con . /.. " ∧
    ∃ g, ((Run.generate d ⟨" con . /.. ", true⟩).result {}).1 = .ok g ∧
      FileName.IsPortable g.fileName := by
  have hd : ThemeDefaults.check (.mapping [(.text "replacement", .text " -"),
      (.text "max_name_length", .int 12)]) = .valid ⟨true, " -", some 12⟩ := by
    simp only [ThemeDefaults.check, Checked.model, Checked.field, Value.Mapping.getText?_cons]
    rfl
  have hname : ¬ (⟨true, " -", some 12⟩ : ThemeDefaults).Refuses " con . /.. " := by
    rw [← ThemeDefaults.isOk_judge]
    decide
  exact ⟨hd, hname, (generate_portable hd ⟨" con . /.. ", true⟩ {}).2 hname⟩

end ThemeForge

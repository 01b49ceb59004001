import ThemeForge.Value.Basic

/-!
# Mappings with texts as keys

Texts are the same exactly if they are equal, which makes look-up and update of textual keys those
of association lists.

* `Value.same_text`, `Value.same_text_iff`: sameness with a text;
* `Value.Mapping.getText?_cons`, `Value.Mapping.put_cons_text`: one entry at a time;
* `Value.Mapping.getText?_put`, `Value.Mapping.get?_put_of_apart`: what is found after an update;
* `Value.Mapping.AgreesOff`: mappings that differ at some textual keys only;
* `Value.Mapping.entriesAt?`: the entries of a mapping in a mapping.
-/

namespace ThemeForge.Value

@[simp] theorem same_text (s t : Text) : same (.text s) (.text t) = (s == t) := by
  rw [same]

theorem same_text_iff {v : Value} {t : Text} : same v (.text t) = true ↔ v = .text t := by
  cases v with
  | text s => simp
  | _ => simp [same, asInt?]

theorem same_text_left_iff {v : Value} {t : Text} : same (.text t) v = true ↔ v = .text t := by
  cases v with
  | text s => rw [same_text, beq_iff_eq, text.injEq, eq_comm]
  | _ => simp [same, asInt?]

namespace Mapping

@[simp] theorem getText?_nil (key : Text) : getText? [] key = none := rfl

theorem getText?_cons (k key : Text) (v : Value) (m : Mapping) :
    getText? ((.text k, v) :: m) key = if k = key then some v else getText? m key := by
  unfold getText? get?
  rw [List.find?_cons, same_text]
  by_cases h : k = key
  · rw [if_pos h, beq_iff_eq.mpr h]
    rfl
  · rw [if_neg h, beq_false_of_ne h]

@[simp] theorem put_nil (key v : Value) : put key v [] = [(key, v)] := rfl

theorem put_cons_text (k key : Text) (v w : Value) (m : Mapping) :
    put (.text key) v ((.text k, w) :: m) =
      if k = key then (.text k, v) :: m else (.text k, w) :: put (.text key) v m := by
  rw [put]
  by_cases h : k = key <;> simp [h]

theorem getText?_put (k key : Text) (v : Value) (m : Mapping) :
    getText? (put (.text k) v m) key = if k = key then some v else getText? m key := by
  induction m with
  | nil => rw [put_nil, getText?_cons]
  | cons e m ih =>
    unfold getText? get? at ih ⊢
    rw [put]
    by_cases hk : same e.1 (.text k) = true
    · rw [if_pos hk]
      rw [same_text_iff] at hk
      by_cases h : k = key <;> simp [hk, h]
    · rw [if_neg hk, List.find?_cons, List.find?_cons]
      cases hs : same e.1 (.text key) with
      | false => exact ih
      | true =>
        have hne : k ≠ key := by
          rintro rfl
          exact hk hs
        simp [hne]

/-! ## The rest of a mapping -/

theorem mem_put_iff {e : Value × Value} {k : Text} (v : Value) {m : Mapping}
    (he : e.1 ≠ .text k) : e ∈ put (.text k) v m ↔ e ∈ m := by
  induction m with
  | nil =>
    rw [put_nil, List.mem_singleton]
    refine iff_of_false ?_ List.not_mem_nil
    rintro rfl
    exact he rfl
  | cons d m ih =>
    rw [put]
    split
    · rename_i hd
      rw [same_text_iff] at hd
      have hne : ∀ w, e ≠ (d.1, w) := by
        rintro w rfl
        exact he hd
      rw [List.mem_cons, List.mem_cons, or_iff_right (hne v), or_iff_right (hne d.2)]
    · rw [List.mem_cons, List.mem_cons, ih]

/-- An update at one key leaves what is at another, if nothing is the same as both. -/
theorem get?_put_of_apart {key other : Value} (hself : same key other = false)
    (hapart : ∀ w, same w key = true → same w other = false) (v : Value) (m : Mapping) :
    get? (put key v m) other = get? m other := by
  induction m with
  | nil => simp [get?, hself]
  | cons d m ih =>
    unfold get? at ih ⊢
    rw [put]
    split
    · rename_i hd
      rw [List.find?_cons, List.find?_cons, hapart d.1 hd]
    · rw [List.find?_cons, List.find?_cons]
      cases same d.1 other with
      | true => rfl
      | false => exact ih

theorem get?_put_of_ne {key : Value} {k : Text} (v : Value) (m : Mapping) (hkey : key ≠ .text k) :
    get? (put (.text k) v m) key = get? m key := by
  have hother : same (.text k) key = false := by
    rw [← Bool.not_eq_true, same_text_left_iff]
    exact hkey
  refine get?_put_of_apart hother (fun w hw => ?_) v m
  rw [same_text_iff.mp hw]
  exact hother

/-- Two mappings have the same entries but for those at some textual keys: they have the same ones,
and the same are found. -/
structure AgreesOff (keys : List Text) (m m' : Mapping) : Prop where
  mem_iff : ∀ e : Value × Value, (∀ k ∈ keys, e.1 ≠ .text k) → (e ∈ m' ↔ e ∈ m)
  get?_eq : ∀ key : Value, (∀ k ∈ keys, key ≠ .text k) → m'.get? key = m.get? key

namespace AgreesOff

variable {keys : List Text} {m m' m'' : Mapping}

theorem refl (keys : List Text) (m : Mapping) : AgreesOff keys m m :=
  ⟨fun _ _ => Iff.rfl, fun _ _ => rfl⟩

theorem trans (h : AgreesOff keys m m') (h' : AgreesOff keys m' m'') : AgreesOff keys m m'' :=
  ⟨fun e he => (h'.mem_iff e he).trans (h.mem_iff e he),
    fun key hkey => (h'.get?_eq key hkey).trans (h.get?_eq key hkey)⟩

theorem mono {keys' : List Text} (h : AgreesOff keys m m') (hkeys : keys ⊆ keys') :
    AgreesOff keys' m m' :=
  ⟨fun e he => h.mem_iff e fun k hk => he k (hkeys hk),
    fun key hkey => h.get?_eq key fun k hk => hkey k (hkeys hk)⟩

theorem put (k : Text) (v : Value) (m : Mapping) : AgreesOff [k] m (m.put (.text k) v) :=
  ⟨fun _ he => mem_put_iff v (he k List.mem_cons_self),
    fun _ hkey => get?_put_of_ne v m (hkey k List.mem_cons_self)⟩

theorem getText?_eq (h : AgreesOff keys m m') {key : Text} (hkey : key ∉ keys) :
    m'.getText? key = m.getText? key := by
  refine h.get?_eq _ fun k hk heq => hkey ?_
  cases heq
  exact hk

end AgreesOff

/-- The entries of the mapping at a textual key; none if there is nothing at the key. -/
def entriesAt? (m : Mapping) (key : Text) : Option Mapping :=
  match m.getText? key with
  | none => some []
  | some (.mapping entries) => some entries
  | some _ => none

theorem entriesAt?_eq_some_iff {m : Mapping} {key : Text} {entries : Mapping} :
    m.entriesAt? key = some entries ↔
      (m.getText? key = none ∧ entries = []) ∨ m.getText? key = some (.mapping entries) := by
  unfold entriesAt?
  split
  · rename_i h
    simp [h, eq_comm]
  · rename_i h
    simp [h]
  · rename_i v hne h
    simp only [h, reduceCtorEq, false_and, false_or, Option.some.injEq, false_iff]
    rintro rfl
    exact hne entries rfl

theorem AgreesOff.entriesAt?_eq {keys : List Text} {m m' : Mapping} (h : AgreesOff keys m m')
    {key : Text} (hkey : key ∉ keys) : m'.entriesAt? key = m.entriesAt? key := by
  unfold entriesAt?
  rw [h.getText?_eq hkey]

end Mapping

end ThemeForge.Value

import Mathlib.Data.List.Chain
import Mathlib.Data.List.DropRight
import ThemeForge.Text.Blank

/-!
# Trimmed and collapsed texts

* `Text.trimOf_isInfix`, `Text.not_of_mem_head?_trimOf`, `Text.not_of_mem_getLast?_trimOf`:
  trimming keeps a middle part, of which neither end is trimmed any more;
* `Text.trim_eq_nil_iff`: only blank texts are trimmed to nothing;
* `Text.trimOf_padded`: trimming with something around that is trimmed anyway;
* `Text.IsSpaced`, **`Text.isSpaced_collapse`**: after collapsing, the only blanks are single
  spaces;
* `Text.trimOf_eq_self`, **`Text.collapse_eq_self`**: what is trimmed or collapsed already stays as
  it is;
* `Text.collapseFrom_append`: collapsing piece by piece.
-/

namespace ThemeForge.Text

/-! ## Trimming -/

theorem trimEndOf_isPrefix (p : Code → Bool) (t : Text) : trimEndOf p t <+: t :=
  List.rdropWhile_prefix p t

theorem trimOf_isInfix (p : Code → Bool) (t : Text) : trimOf p t <:+: t :=
  (trimEndOf_isPrefix p _).isInfix.trans (List.dropWhile_suffix p).isInfix

/-- What trimming at the end removes is in the trimmed class. -/
theorem exists_trimEndOf_append (p : Code → Bool) (t : Text) :
    ∃ tail, trimEndOf p t ++ tail = t ∧ ∀ c ∈ tail, p c = true :=
  ⟨t.rtakeWhile p, List.rdropWhile_append_rtakeWhile, fun _ => List.mem_rtakeWhile_imp⟩

theorem not_of_mem_getLast?_trimEndOf {p : Code → Bool} {t : Text} {c : Code}
    (h : c ∈ (trimEndOf p t).getLast?) : p c = false := by
  obtain ⟨hne, rfl⟩ := List.mem_getLast?_eq_getLast h
  exact Bool.eq_false_iff.mpr (List.rdropWhile_last_not p t hne)

theorem not_of_mem_getLast?_trimOf {p : Code → Bool} {t : Text} {c : Code}
    (h : c ∈ (trimOf p t).getLast?) : p c = false := not_of_mem_getLast?_trimEndOf h

theorem not_of_mem_head?_trimOf {p : Code → Bool} {t : Text} {c : Code}
    (h : c ∈ (trimOf p t).head?) : p c = false := by
  have hs : (t.dropWhile p).head? = some c := by
    obtain ⟨tail, htail, -⟩ := exists_trimEndOf_append p (trimStartOf p t)
    change trimEndOf p (trimStartOf p t) ++ tail = t.dropWhile p at htail
    rw [← htail, List.head?_append_of_ne_nil]
    · exact h
    · intro hnil
      rw [trimOf, hnil] at h
      exact nomatch h
  have := List.head?_dropWhile_not p t
  rwa [hs] at this

theorem trimOf_eq_nil_iff {p : Code → Bool} {t : Text} :
    trimOf p t = [] ↔ ∀ c ∈ t, p c = true := by
  rw [trimOf, trimEndOf, List.reverse_eq_nil_iff, List.dropWhile_eq_nil_iff]
  simp only [List.mem_reverse]
  refine ⟨fun h => ?_, fun h c hc => h c ((List.dropWhile_suffix p).mem hc)⟩
  refine List.dropWhile_eq_nil_iff.mp (by_contra fun hne => ?_)
  have := List.head_dropWhile_not p hne
  rw [h _ (List.head_mem hne)] at this
  exact Bool.noConfusion this

/-- **Only blank texts are trimmed to nothing.** -/
theorem trim_eq_nil_iff {t : Text} : t.trim = [] ↔ ∀ c ∈ t, c.isBlank = true := trimOf_eq_nil_iff

theorem trimEndOf_eq_self {p : Code → Bool} {t : Text}
    (h : ∀ c ∈ t.getLast?, p c = false) : trimEndOf p t = t := by
  refine List.rdropWhile_eq_self_iff.mpr fun hne => ?_
  exact Bool.eq_false_iff.mp (h _ (List.getLast?_eq_some_getLast hne))

theorem trimOf_eq_self {p : Code → Bool} {t : Text} (hhead : ∀ c ∈ t.head?, p c = false)
    (hlast : ∀ c ∈ t.getLast?, p c = false) : trimOf p t = t := by
  have hstart : trimStartOf p t = t := by
    cases t with
    | nil => rfl
    | cons c t => exact List.dropWhile_cons_of_neg (Bool.eq_false_iff.mp (hhead c rfl))
  rw [trimOf, hstart, trimEndOf_eq_self hlast]

theorem trimEndOf_cons {p : Code → Bool} {c : Code} {t : Text} (h : p c = false) :
    trimEndOf p (c :: t) = c :: trimEndOf p t := by
  rw [trimEndOf, trimEndOf, List.reverse_cons, List.dropWhile_append]
  split
  · rename_i hnil
    rw [List.isEmpty_iff.mp hnil, List.dropWhile_cons_of_neg (Bool.eq_false_iff.mp h)]
    rfl
  · rw [List.reverse_append, List.reverse_singleton, List.singleton_append]

theorem trimEndOf_append {p : Code → Bool} (s : Text) {tail : Text} (h : ∀ c ∈ tail, p c = true) :
    trimEndOf p (s ++ tail) = trimEndOf p s := by
  rw [trimEndOf, List.reverse_append, List.dropWhile_append_of_pos, trimEndOf]
  simpa using h

section Padded

variable {p : Code → Bool} {pad tail : Text}

theorem trimStartOf_append (hpad : ∀ c ∈ pad, p c = true) (t : Text) :
    trimStartOf p (pad ++ t) = trimStartOf p t := List.dropWhile_append_of_pos hpad

theorem trimOf_append_left (hpad : ∀ c ∈ pad, p c = true) (t : Text) :
    trimOf p (pad ++ t) = trimOf p t := by
  rw [trimOf, trimStartOf_append hpad, trimOf]

theorem trimOf_append_right (t : Text) (htail : ∀ c ∈ tail, p c = true) :
    trimOf p (t ++ tail) = trimOf p t := by
  rw [trimOf, trimOf, trimStartOf, trimStartOf, List.dropWhile_append]
  split
  · rename_i hnil
    rw [List.isEmpty_iff.mp hnil, List.dropWhile_eq_nil_iff.mpr htail]
  · exact trimEndOf_append _ htail

/-- Trimming forgets what is trimmed anyway. -/
theorem trimOf_padded (hpad : ∀ c ∈ pad, p c = true) (t : Text) (htail : ∀ c ∈ tail, p c = true) :
    trimOf p (pad ++ t ++ tail) = trimOf p t := by
  rw [trimOf_append_right _ htail, trimOf_append_left hpad]

end Padded

/-! ## Collapsing -/

theorem eq_space_or_mem_of_mem_collapseFrom {inRun : Bool} {t : Text} {c : Code}
    (h : c ∈ collapseFrom inRun t) : c = ' ' ∨ c ∈ t := by
  induction t generalizing inRun with
  | nil => exact absurd h List.not_mem_nil
  | cons d t ih =>
    rw [collapseFrom] at h
    split_ifs at h
    · exact (ih h).imp_right (List.mem_cons_of_mem d)
    · rcases List.mem_cons.mp h with rfl | h
      · exact .inl rfl
      · exact (ih h).imp_right (List.mem_cons_of_mem d)
    · rcases List.mem_cons.mp h with rfl | h
      · exact .inr List.mem_cons_self
      · exact (ih h).imp_right (List.mem_cons_of_mem d)

theorem eq_space_or_mem_of_mem_collapse {t : Text} {c : Code} (h : c ∈ t.collapse) :
    c = ' ' ∨ c ∈ t := eq_space_or_mem_of_mem_collapseFrom h

/-- The only blanks are spaces, and no two of them stand side by side. -/
structure IsSpaced (t : Text) : Prop where
  eq_space : ∀ c ∈ t, c.isBlank = true → c = ' '
  single : t.IsChain fun a b => ¬ (a.isBlank = true ∧ b.isBlank = true)

theorem IsSpaced.of_isInfix {s t : Text} (ht : t.IsSpaced) (h : s <:+: t) : s.IsSpaced :=
  ⟨fun c hc => ht.eq_space c (h.mem hc), List.IsChain.infix ht.single h⟩

theorem isSpaced_nil : IsSpaced [] := ⟨fun _ hc => absurd hc List.not_mem_nil, List.IsChain.nil⟩

/-- A code point in front of a text: a blank one must be a space, and no blank may follow it. -/
theorem IsSpaced.cons {c : Code} {t : Text} (ht : t.IsSpaced) (hc : c.isBlank = true → c = ' ')
    (h : c.isBlank = true → ∀ d ∈ t.head?, d.isBlank = false) : IsSpaced (c :: t) where
  eq_space := List.forall_mem_cons.mpr ⟨hc, ht.eq_space⟩
  single := List.isChain_cons.mpr ⟨fun d hd hcd => by simp [h hcd.1 d hd] at hcd, ht.single⟩

theorem IsSpaced.length_le_one {t : Text} (ht : t.IsSpaced)
    (h : ∀ c ∈ t, c.isBlank = true) : t.length ≤ 1 := by
  match t with
  | [] | [_] => simp
  | a :: b :: rest =>
    exact absurd ⟨h a (by simp), h b (by simp)⟩ (List.isChain_cons_cons.mp ht.single).1

theorem isSpaced_collapseFrom (inRun : Bool) (t : Text) :
    (collapseFrom inRun t).IsSpaced ∧
      (inRun = true → ∀ c ∈ (collapseFrom inRun t).head?, c.isBlank = false) := by
  induction t generalizing inRun with
  | nil => exact ⟨isSpaced_nil, fun _ _ hc => nomatch hc⟩
  | cons c t ih =>
    rw [collapseFrom]
    split
    · obtain ⟨ht, hhead⟩ := ih true
      cases inRun with
      | true => exact ⟨ht, hhead⟩
      | false => exact ⟨ht.cons (fun _ => rfl) fun _ => hhead rfl, (nomatch ·)⟩
    · rename_i hc
      refine ⟨(ih false).1.cons (fun h => absurd h hc) fun h => absurd h hc, fun _ d hd => ?_⟩
      rw [← Option.some.inj hd]
      exact Bool.eq_false_iff.mpr hc

/-- **After collapsing, the only blanks are single spaces.** -/
theorem isSpaced_collapse (t : Text) : t.collapse.IsSpaced := (isSpaced_collapseFrom false t).1

theorem IsSpaced.of_cons {c : Code} {t : Text} (h : IsSpaced (c :: t)) :
    t.IsSpaced ∧ (c.isBlank = true → c = ' ' ∧ ∀ d ∈ t.head?, d.isBlank = false) := by
  refine ⟨h.of_isInfix (List.suffix_cons c t).isInfix, fun hc => ?_⟩
  refine ⟨h.eq_space c List.mem_cons_self hc, fun d hd => ?_⟩
  have hne := (List.isChain_cons.mp h.single).1 d hd
  exact Bool.eq_false_iff.mpr fun hblank => hne ⟨hc, hblank⟩

theorem collapseFrom_eq_self {inRun : Bool} {t : Text} (ht : t.IsSpaced)
    (h : inRun = true → ∀ c ∈ t.head?, c.isBlank = false) : collapseFrom inRun t = t := by
  induction t generalizing inRun with
  | nil => rfl
  | cons c t ih =>
    obtain ⟨htail, hblank⟩ := ht.of_cons
    rw [collapseFrom]
    split
    · rename_i hc
      obtain ⟨rfl, hnext⟩ := hblank hc
      have hrun : ¬ inRun = true := fun hrun => by
        have := h hrun _ rfl
        rw [hc] at this
        exact Bool.noConfusion this
      rw [if_neg hrun, ih htail fun _ => hnext]
    · rw [ih htail fun hrun => absurd hrun Bool.false_ne_true]

/-- **Collapsing leaves a singly spaced text alone.** -/
theorem collapse_eq_self {t : Text} (ht : t.IsSpaced) : t.collapse = t :=
  collapseFrom_eq_self ht (nomatch ·)

/-- Whether a text ends in a run of blanks, when `inRun` says so of what stands before it. -/
def endsInRun (inRun : Bool) (t : Text) : Bool := (t.getLast?.map Code.isBlank).getD inRun

theorem collapseFrom_append (inRun : Bool) (s t : Text) :
    collapseFrom inRun (s ++ t) = collapseFrom inRun s ++ collapseFrom (endsInRun inRun s) t := by
  induction s generalizing inRun with
  | nil => rfl
  | cons c s ih =>
    have hends : endsInRun inRun (c :: s) = endsInRun c.isBlank s := by
      cases s with
      | nil => rfl
      | cons d s => rw [endsInRun, endsInRun, List.getLast?_cons_cons]; rfl
    rw [hends, List.cons_append, collapseFrom, collapseFrom]
    split
    · rename_i hc
      rw [hc]
      split
      · exact ih true
      · rw [ih true, List.cons_append]
    · rename_i hc
      rw [Bool.eq_false_iff.mpr hc, ih false, List.cons_append]

end ThemeForge.Text

import ThemeForge.Template.Store

/-!
# Sorted listings

A listing is sorted by name and says of a name what was put in last.

* `Text.compare_eq_iff`, `Text.compare_swap`, `Text.compare_trans`: the order of texts;
* `TemplateStore.IsSorted`, `TemplateStore.isSorted_insertSorted`,
  `TemplateStore.mem_insertSorted_iff`: one more name;
* **`TemplateStore.isSorted_list`**, **`TemplateStore.mem_list_iff`**: the listing of a store.
-/

namespace ThemeForge

namespace Text

variable {s t u : Text}

/-! ## The order of texts -/

theorem compare_cons (a b : Code) (s t : Text) : compare (a :: s) (b :: t) =
    if a.val < b.val then .lt else if b.val < a.val then .gt else compare s t := rfl

theorem compare_eq_iff : compare s t = .eq ↔ s = t := by
  induction s generalizing t with
  | nil => cases t <;> simp [compare]
  | cons a s ih =>
    cases t with
    | nil => simp [compare]
    | cons b t =>
      obtain ⟨m, hm⟩ := a
      obtain ⟨n, hn⟩ := b
      rw [compare_cons, List.cons.injEq, Code.mk.injEq]
      rcases Nat.lt_trichotomy m n with h | rfl | h
      · simp [h, Nat.ne_of_lt h]
      · simp [ih]
      · simp [h, Nat.lt_asymm h, Nat.ne_of_gt h]

theorem compare_swap (s t : Text) : (compare s t).swap = compare t s := by
  induction s generalizing t with
  | nil => cases t <;> rfl
  | cons a s ih =>
    cases t with
    | nil => rfl
    | cons b t =>
      rw [compare_cons, compare_cons]
      rcases Nat.lt_trichotomy a.val b.val with h | h | h
      · simp [h, Nat.lt_asymm h]
      · simp [h, ih]
      · simp [h, Nat.lt_asymm h]

theorem compare_gt_iff : compare s t = .gt ↔ compare t s = .lt := by
  rw [← compare_swap t s]
  cases compare t s <;> simp

theorem compare_trans (h : compare s t = .lt) (h' : compare t u = .lt) : compare s u = .lt := by
  induction s generalizing t u with
  | nil =>
    cases t with
    | nil => exact nomatch h
    | cons b t =>
      cases u with
      | nil => exact nomatch h'
      | cons c u => rfl
  | cons a s ih =>
    cases t with
    | nil => exact nomatch h
    | cons b t =>
      cases u with
      | nil => exact nomatch h'
      | cons c u =>
        rw [compare_cons] at h h' ⊢
        by_cases hab : a.val < b.val
        · by_cases hcb : c.val < b.val
          · rw [if_neg (Nat.lt_asymm hcb), if_pos hcb] at h'
            exact nomatch h'
          · rw [if_pos (by omega)]
        · by_cases hba : b.val < a.val
          · rw [if_neg hab, if_pos hba] at h
            exact nomatch h
          · rw [if_neg hab, if_neg hba] at h
            rw [show a.val = b.val by omega]
            split at h'
            · rw [if_pos ‹_›]
            · rw [if_neg ‹_›]
              split at h'
              · exact nomatch h'
              · rw [if_neg ‹_›]
                exact ih h h'

end Text

namespace TemplateStore

variable {e f : Text × TemplateOrigin} {l : List (Text × TemplateOrigin)}

/-! ## One more name -/

/-- The names increase, so that none occurs twice. -/
def IsSorted (l : List (Text × TemplateOrigin)) : Prop :=
  l.Pairwise fun e f => Text.compare e.1 f.1 = .lt

instance (l : List (Text × TemplateOrigin)) : Decidable (IsSorted l) :=
  inferInstanceAs (Decidable (l.Pairwise _))

/-- In a sorted listing, what is there besides the new name is kept. -/
theorem mem_insertSorted_iff (hl : IsSorted l) :
    f ∈ insertSorted e l ↔ f = e ∨ (f ∈ l ∧ f.1 ≠ e.1) := by
  induction l with
  | nil => simp [insertSorted]
  | cons g l ih =>
    obtain ⟨hg, hl⟩ := List.pairwise_cons.mp hl
    have hne {x y : Text × TemplateOrigin} (h : Text.compare x.1 y.1 = .lt) : y.1 ≠ x.1 := by
      intro heq
      rw [← heq, Text.compare_eq_iff.mpr rfl] at h
      exact nomatch h
    rw [insertSorted]
    cases hcmp : Text.compare e.1 g.1 with
    | lt =>
      have hall : ∀ x ∈ g :: l, x.1 ≠ e.1 := List.forall_mem_cons.mpr
        ⟨hne hcmp, fun x hx => hne (Text.compare_trans hcmp (hg x hx))⟩
      rw [List.mem_cons (a := f) (b := e)]
      exact or_congr_right ⟨fun h => ⟨h, hall f h⟩, And.left⟩
    | eq =>
      have heq := Text.compare_eq_iff.mp hcmp
      rw [List.mem_cons, List.mem_cons]
      refine or_congr_right ⟨fun h => ⟨.inr h, heq ▸ hne (hg f h)⟩, ?_⟩
      rintro ⟨rfl | h, hf⟩
      · exact absurd heq.symm hf
      · exact h
    | gt =>
      rw [List.mem_cons, List.mem_cons, ih hl]
      have hge := hne (Text.compare_gt_iff.mp hcmp)
      constructor
      · rintro (rfl | rfl | ⟨h, hf⟩)
        · exact .inr ⟨.inl rfl, hge.symm⟩
        · exact .inl rfl
        · exact .inr ⟨.inr h, hf⟩
      · rintro (rfl | ⟨rfl | h, hf⟩)
        · exact .inr (.inl rfl)
        · exact .inl rfl
        · exact .inr (.inr ⟨h, hf⟩)

theorem isSorted_insertSorted (hl : IsSorted l) (e : Text × TemplateOrigin) :
    IsSorted (insertSorted e l) := by
  induction l with
  | nil => exact List.pairwise_singleton _ e
  | cons g l ih =>
    obtain ⟨hg, hrest⟩ := List.pairwise_cons.mp hl
    rw [insertSorted]
    cases hcmp : Text.compare e.1 g.1 with
    | lt =>
      refine List.pairwise_cons.mpr ⟨List.forall_mem_cons.mpr ⟨hcmp, fun x hx => ?_⟩, hl⟩
      exact Text.compare_trans hcmp (hg x hx)
    | eq =>
      rw [← Text.compare_eq_iff.mp hcmp] at hg
      exact List.pairwise_cons.mpr ⟨hg, hrest⟩
    | gt =>
      refine List.pairwise_cons.mpr ⟨fun x hx => ?_, ih hrest⟩
      rcases (mem_insertSorted_iff hrest).mp hx with rfl | ⟨hx, -⟩
      · exact Text.compare_gt_iff.mp hcmp
      · exact hg x hx

/-- Several names of one origin, one after the other. -/
theorem isSorted_insertAll (names : List Text) (o : TemplateOrigin) (hl : IsSorted l) :
    IsSorted ((names.map fun n => (n, o)).foldl (fun l e => insertSorted e l) l) ∧
    ∀ f, f ∈ (names.map fun n => (n, o)).foldl (fun l e => insertSorted e l) l ↔
      (f.1 ∈ names ∧ f.2 = o) ∨ (f ∈ l ∧ f.1 ∉ names) := by
  induction names generalizing l with
  | nil => exact ⟨hl, by simp⟩
  | cons n names ih =>
    obtain ⟨hsorted, hmem⟩ := ih (isSorted_insertSorted hl (n, o))
    refine ⟨hsorted, fun f => ?_⟩
    rw [List.map_cons, List.foldl_cons, hmem, mem_insertSorted_iff hl, List.mem_cons]
    obtain ⟨t, o'⟩ := f
    rw [Prod.mk.injEq]
    by_cases ht : t ∈ names
    · simp [ht]
    · by_cases hn : t = n
      · subst hn
        simp [ht]
      · simp [ht, hn]

/-! ## The listing of a store -/

theorem list_eq (s : TemplateStore) (fs : FileSystem) : s.list fs =
    ((s.userNames fs).map fun n => (n, TemplateOrigin.user)).foldl (fun l e => insertSorted e l)
      (((Bundled.templates.map Prod.fst).map fun n => (n, TemplateOrigin.bundled)).foldl
        (fun l e => insertSorted e l) []) := by
  rw [list, List.foldl_append, List.map_map]
  rfl

/-- **A listing is sorted by name**, and no name occurs twice. -/
theorem isSorted_list (s : TemplateStore) (fs : FileSystem) : IsSorted (s.list fs) := by
  rw [list_eq]
  exact (isSorted_insertAll _ _ (isSorted_insertAll _ _ List.Pairwise.nil).1).1

/-- **What is listed**: the names of the user, and those bundled names that are not among them. -/
theorem mem_list_iff {s : TemplateStore} {fs : FileSystem} {n : Text} {o : TemplateOrigin} :
    (n, o) ∈ s.list fs ↔ (n ∈ s.userNames fs ∧ o = .user) ∨
      (n ∉ s.userNames fs ∧ n ∈ Bundled.templates.map Prod.fst ∧ o = .bundled) := by
  obtain ⟨hsorted, hmem⟩ := isSorted_insertAll (Bundled.templates.map Prod.fst) .bundled
    (l := []) List.Pairwise.nil
  rw [list_eq, (isSorted_insertAll (s.userNames fs) .user hsorted).2, hmem]
  simp only [List.not_mem_nil, false_and, or_false]
  exact or_congr_right and_comm

end TemplateStore

end ThemeForge

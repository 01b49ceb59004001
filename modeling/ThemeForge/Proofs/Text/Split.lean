import ThemeForge.Text.Code

/-!
# Splitting and joining

Pieces between separators, and what joining puts between them.

* `Text.splitOn_eq`, `Text.join_eq`: the same as for lists;
* `Text.notMem_of_mem_splitOn`: no piece holds the separator;
* **`Text.splitOn_join`**: joined pieces are found again;
* `Text.mem_join_of_mem`, `Text.mem_or_exists_of_mem_join`, `Text.join_isPrefix`: the code points of
  joined pieces, and their beginnings.
-/

namespace ThemeForge.Text

theorem splitOn_eq (c : Code) (t : Text) : splitOn c t = List.splitOn c t := by
  induction t with
  | nil => rw [splitOn, List.splitOn_nil]
  | cons a t ih =>
    rw [splitOn, ih, List.splitOn_cons_eq_if_modifyHead]
    cases hpieces : List.splitOn c t with
    | nil => exact absurd hpieces (List.splitOn_ne_nil c t)
    | cons piece pieces => by_cases ha : a = c <;> simp [ha]

theorem join_eq (sep : Text) (ts : List Text) : join sep ts = sep.intercalate ts := by
  induction ts with
  | nil => rfl
  | cons t ts ih =>
    cases ts with
    | nil => rw [join, List.intercalate_singleton]
    | cons u ts =>
      rw [join, ih, List.intercalate_cons_cons]
      exact (nomatch ·)

theorem splitOn_of_notMem {c : Code} {t : Text} (h : c ∉ t) : t.splitOn c = [t] := by
  rw [splitOn_eq]
  exact List.splitOn_eq_singleton h

/-- No piece holds the separator. -/
theorem notMem_of_mem_splitOn {c : Code} {t piece : Text} (h : piece ∈ t.splitOn c) :
    c ∉ piece := by
  induction t generalizing piece with
  | nil =>
    rw [splitOn, List.mem_singleton] at h
    exact h ▸ List.not_mem_nil
  | cons a t ih =>
    rw [splitOn] at h
    cases hpieces : splitOn c t with
    | nil =>
      rw [hpieces, List.mem_singleton] at h
      exact h ▸ List.not_mem_nil
    | cons first pieces =>
      rw [hpieces] at h ih
      have hfirst : c ∉ first := ih List.mem_cons_self
      by_cases ha : a = c
      · simp only [if_pos ha, List.mem_cons] at h
        rcases h with rfl | rfl | h
        · exact List.not_mem_nil
        · exact hfirst
        · exact ih (List.mem_cons_of_mem first h)
      · simp only [if_neg ha, List.mem_cons] at h
        rcases h with rfl | h
        · exact fun hc => hfirst ((List.mem_cons.mp hc).resolve_left (Ne.symm ha))
        · exact ih (List.mem_cons_of_mem first h)

/-- **Joined pieces are found again.** -/
theorem splitOn_join {c : Code} {ts : List Text} (h : ∀ t ∈ ts, c ∉ t) (hne : ts ≠ []) :
    splitOn c (join [c] ts) = ts := by
  rw [splitOn_eq, join_eq]
  exact List.splitOn_intercalate c h hne

theorem join_cons_cons (sep t u : Text) (ts : List Text) :
    join sep (t :: u :: ts) = t ++ sep ++ join sep (u :: ts) := rfl

theorem mem_join_of_mem {sep t : Text} {ts : List Text} (ht : t ∈ ts) {c : Code} (hc : c ∈ t) :
    c ∈ join sep ts := by
  induction ts with
  | nil => exact absurd ht List.not_mem_nil
  | cons u ts ih =>
    cases ts with
    | nil =>
      rw [List.mem_singleton] at ht
      exact ht ▸ hc
    | cons v ts =>
      rw [join_cons_cons, List.mem_append, List.mem_append]
      rcases List.mem_cons.mp ht with rfl | ht
      · exact .inl (.inl hc)
      · exact .inr (ih ht)

theorem mem_or_exists_of_mem_join {sep : Text} {ts : List Text} {c : Code}
    (hc : c ∈ join sep ts) : c ∈ sep ∨ ∃ t ∈ ts, c ∈ t := by
  induction ts with
  | nil => exact absurd hc List.not_mem_nil
  | cons u ts ih =>
    cases ts with
    | nil => exact .inr ⟨u, List.mem_singleton_self u, hc⟩
    | cons v ts =>
      rw [join_cons_cons, List.mem_append, List.mem_append] at hc
      rcases hc with (hc | hc) | hc
      · exact .inr ⟨u, List.mem_cons_self, hc⟩
      · exact .inl hc
      · rcases ih hc with hc | ⟨t, ht, hc⟩
        · exact .inl hc
        · exact .inr ⟨t, List.mem_cons_of_mem u ht, hc⟩

theorem join_isPrefix (sep : Text) (ts us : List Text) : join sep ts <+: join sep (ts ++ us) := by
  induction ts with
  | nil => exact List.nil_prefix
  | cons t ts ih =>
    cases ts with
    | nil =>
      cases us with
      | nil => exact List.prefix_rfl
      | cons u us =>
        rw [List.singleton_append, join_cons_cons, List.append_assoc]
        exact List.prefix_append _ _
    | cons t' ts =>
      rw [List.cons_append, List.cons_append, join_cons_cons, join_cons_cons]
      exact (List.prefix_append_right_inj _).mpr ih

end ThemeForge.Text

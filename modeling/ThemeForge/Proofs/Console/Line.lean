import Mathlib.Data.List.TakeDrop
import ThemeForge.Console.Terminal
import ThemeForge.Proofs.FileName.Replacement

/-!
# Texts that are shown as they are

A text without backslashes is not changed by writing its marks out, and one without tabs and codes
that move the cursor is shown as it is. Legal file names are such texts. A text without the code
point that begins a control sequence is printed as it is, wherever it goes.

* `Text.literal_eq_self`, `Text.IsShowable.shown_literal`: the two conditions;
* `Terminal.echo_eq_self`: texts that lose nothing when they are printed;
* `FileName.IsLegal.isShowable`: legal file names.
-/

namespace ThemeForge

namespace Text

theorem eq_of_mark? {t body after : Text} (h : mark? t = some (body, after)) :
    t = body ++ Code.ofChar ']' :: after := by
  unfold mark? at h
  split at h
  · exact nomatch h
  · rename_i c rest
    split at h
    · simp only [List.span_eq_takeWhile_dropWhile] at h
      split at h
      · rename_i d after' hdrop
        split at h
        · rename_i hd
          cases h
          subst hd
          rw [List.cons_append, ← hdrop, List.takeWhile_append_dropWhile]
        · exact nomatch h
      · exact nomatch h
    · exact nomatch h

theorem flatMap_literal_piecesFrom {n : Nat} {t : Text} (hn : t.length ≤ n)
    (ht : Code.ofChar '\\' ∉ t) : (piecesFrom n t).flatMap Piece.literal = t := by
  induction n generalizing t with
  | zero =>
    obtain rfl := List.length_eq_zero_iff.mp (Nat.le_zero.mp hn)
    rfl
  | succ n ih =>
    cases t with
    | nil => rfl
    | cons c rest =>
      rw [List.mem_cons, not_or] at ht
      have hlen : rest.length ≤ n := Nat.le_of_succ_le_succ hn
      have hspan : (c :: rest).span (fun d => d == Code.ofChar '\\') = ([], c :: rest) := by
        rw [List.span_eq_takeWhile_dropWhile, List.takeWhile_cons_of_neg,
          List.dropWhile_cons_of_neg] <;> simpa using Ne.symm ht.1
      have hrest := ih hlen ht.2
      rw [piecesFrom, hspan]
      dsimp only
      by_cases hc : c = Code.ofChar '['
      · rw [if_pos hc]
        cases hmark : mark? rest with
        | none => simpa [Piece.literal, hc] using hrest
        | some found =>
          obtain ⟨body, after⟩ := found
          have heq := eq_of_mark? hmark
          have hafter : after.length ≤ n := by
            rw [heq, List.length_append, List.length_cons] at hlen
            omega
          have hin : Code.ofChar '\\' ∉ after := fun hmem =>
            ht.2 (heq ▸ List.mem_append_right body (List.mem_cons_of_mem _ hmem))
          have hpiece : (Piece.mark 0 body).literal =
              Code.ofChar '[' :: (body ++ [Code.ofChar ']']) := rfl
          simp only [List.length_nil, List.flatMap_cons, ih hafter hin, hpiece]
          simp [heq, hc]
      · rw [if_neg hc]
        simpa [Piece.literal] using hrest

theorem literal_eq_self {t : Text} (ht : Code.ofChar '\\' ∉ t) : t.literal = t :=
  flatMap_literal_piecesFrom (Nat.le_refl _) ht

theorem expandTabsFrom_eq_self (cell : Nat) {t : Text} (ht : Code.ofChar '\t' ∉ t) :
    expandTabsFrom cell t = t := by
  induction t generalizing cell with
  | nil => rfl
  | cons c rest ih =>
    rw [List.mem_cons, not_or] at ht
    rw [expandTabsFrom, if_neg (Ne.symm ht.1), ih 0 ht.2, ih (cell + c.cells) ht.2, ite_self]

/-- Neither tabs nor codes that move the cursor, and no backslashes. -/
def IsShowable (t : Text) : Prop :=
  ∀ c ∈ t, c.movesCursor = false ∧ c ≠ Code.ofChar '\t' ∧ c ≠ Code.ofChar '\\'

theorem isShowable_append {s t : Text} : IsShowable (s ++ t) ↔ IsShowable s ∧ IsShowable t :=
  List.forall_mem_append

theorem IsShowable.shown_literal {t : Text} (ht : t.IsShowable) : t.literal.shown = t := by
  rw [literal_eq_self fun h => (ht _ h).2.2 rfl, shown,
    List.filter_eq_self.mpr fun c hc => by rw [(ht c hc).1]; rfl,
    expandTabsFrom_eq_self 0 fun h => (ht _ h).2.1 rfl]

theorem withoutSequences_eq_self {t : Text} (ht : Code.escape ∉ t) : t.withoutSequences = t := by
  unfold withoutSequences
  induction t with
  | nil => rfl
  | cons c rest ih =>
    rw [List.mem_cons, not_or] at ht
    have hnone : sequenceTail? (c :: rest) = none := by
      cases rest with
      | nil => rfl
      | cons d rest => rw [sequenceTail?, if_neg fun h => ht.1 h.1.symm]
    rw [withoutSequencesFrom, hnone, ih ht.2]

end Text

theorem Terminal.echo_eq_self [Terminal] {t : Text}
    (h : Terminal.isInteractive = true ∨ Code.escape ∉ t) : echo t = t := by
  unfold echo
  split
  · rfl
  · rename_i hdark
    exact Text.withoutSequences_eq_self (h.resolve_left hdark)

theorem FileName.IsLegal.isShowable {t : Text} (ht : IsLegal t) : t.IsShowable := by
  intro c hc
  have hcontrol : ¬ c.val ≤ 0x1f := fun h => ht c hc (.inr (.inl h))
  refine ⟨?_, ?_, ht.ne_backslash c hc⟩
  · simp [Code.movesCursor]
    omega
  · rintro rfl
    exact hcontrol (by decide)

end ThemeForge

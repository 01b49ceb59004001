import ThemeForge.FileName.Replacement

/-!
# Legal replacements

A replacement without illegal code points has no backslash, so nothing in it is an escape: it
stands for itself, and what it replaces leaves only legal code points.

* `Replacement.parse?_of_isLegal`: reading a legal replacement never fails;
* **`Replacement.isLegal_apply`**, `Replacement.apply_eq_self`: after replacing, a text is legal,
  and there is nothing left to replace;
* `Replacement.apply_append`: replacing piece by piece.
-/

namespace ThemeForge

theorem FileName.IsLegal.ne_backslash {t : Text} (ht : IsLegal t) :
    ∀ c ∈ t, c ≠ Code.ofChar '\\' := by
  rintro c hc rfl
  exact ht _ hc (by decide)

namespace Replacement

open FileName

/-- A text that is replaced by itself, code point by code point. -/
def spelled (t : Text) : Replacement := t.map fun c => .text [c]

theorem expand_spelled (t : Text) (c : Code) : (spelled t).expand c = t := by
  induction t with
  | nil => rfl
  | cons d t ih => exact congrArg (d :: ·) ih

theorem lexemes_of_isLegal {t : Text} (ht : IsLegal t) : lexemes t = (t.map .plain, false) := by
  induction t with
  | nil => rfl
  | cons c t ih =>
    rw [lexemes.eq_def]
    change (if c = Code.ofChar '\\' then _ else _) = _
    rw [if_neg (ht.ne_backslash c List.mem_cons_self),
      ih fun d hd => ht d (List.mem_cons_of_mem c hd)]
    rfl

theorem parseFrom?_plain (written : Text) {fuel : Nat} (pos : Nat) {t : Text}
    (h : t.length < fuel) : parseFrom? written false fuel pos (t.map .plain) = .ok (spelled t) := by
  induction t generalizing fuel pos with
  | nil =>
    obtain ⟨fuel, rfl⟩ := Nat.exists_eq_succ_of_ne_zero (Nat.ne_of_gt h)
    rfl
  | cons c t ih =>
    obtain ⟨fuel, rfl⟩ := Nat.exists_eq_succ_of_ne_zero (Nat.ne_zero_of_lt h)
    rw [List.map_cons, parseFrom?, Bool.and_false, if_neg Bool.false_ne_true,
      ih (pos + 1) (Nat.lt_of_succ_lt_succ h)]
    rfl

/-- **A legal replacement stands for itself.** -/
theorem parse?_of_isLegal {t : Text} (ht : IsLegal t) : parse? t = .ok (spelled t) := by
  rw [parse?, lexemes_of_isLegal ht]
  exact parseFrom?_plain t 0 (by simp)

/-- **Replacing by a legal text leaves only legal code points.** -/
theorem isLegal_apply {t : Text} (ht : IsLegal t) (raw : Text) :
    IsLegal ((spelled t).apply raw) := by
  intro c hc
  obtain ⟨d, -, hcd⟩ := List.mem_flatMap.mp hc
  split at hcd
  · rw [expand_spelled] at hcd
    exact ht c hcd
  · rename_i hd
    rwa [List.mem_singleton.mp hcd]

/-- Nothing is replaced in a legal text. -/
theorem apply_eq_self (r : Replacement) {t : Text} (ht : IsLegal t) : r.apply t = t := by
  induction t with
  | nil => rfl
  | cons c t ih =>
    have htail := ih fun d hd => ht d (List.mem_cons_of_mem c hd)
    rw [apply] at htail ⊢
    rw [List.flatMap_cons, if_neg (ht c List.mem_cons_self), htail]
    rfl

/-- Replacing goes piece by piece. -/
theorem apply_append (r : Replacement) (s t : Text) : r.apply (s ++ t) = r.apply s ++ r.apply t :=
  List.flatMap_append

end Replacement

end ThemeForge

import ThemeForge.Json.Carried
import ThemeForge.Proofs.Json.StringBody

/-!
# What JSON carries unchanged

A value comes back as it was exactly if it is built from what JSON has a form for, with texts for
keys, and no text in it splits a pair of surrogates.

* `Text.joinPairs_of_isEncodable`, `Text.isEncodable_ofInt`: texts without surrogates;
* `Value.isWritable_int`: integers that are not too long;
* **`Json.carried?_eq_self_iff`**: the values that come back as they were;
* `Json.IsKept`, `Json.written?_of_isKept`: objects of such values.
-/

namespace ThemeForge

/-! ## Texts without surrogates -/

namespace Text

theorem joinPairs_of_isEncodable {t : Text} (ht : t.IsEncodable) : t.joinPairs = t := by
  refine joinPairs_eq_self ((List.pairwise_of_forall_mem_list fun a ha b _ h => ?_).isChain)
  have hhigh := h.1
  refine ht a ha ?_
  unfold Code.IsHigh at hhigh
  unfold Code.IsSurrogate
  omega

theorem isEncodable_digitsLoop {base : Nat} (hpos : 0 < base) (hbase : base ≤ 16) (fuel n : Nat)
    {acc : Text} (hacc : acc.IsEncodable) : (digitsLoop base fuel n acc).IsEncodable := by
  induction fuel generalizing n acc with
  | zero => exact hacc
  | succ fuel ih =>
    rw [digitsLoop]
    split
    · exact hacc
    · have hdigit : n % base < 16 := (Nat.mod_lt n hpos).trans_le hbase
      exact ih _ (isEncodable_cons.mpr ⟨Code.not_isSurrogate_hexDigit _ hdigit, hacc⟩)

theorem isEncodable_ofNat (n : Nat) : (ofNat n).IsEncodable := by
  unfold ofNat ofNatBase
  split
  · unfold IsEncodable
    decide
  · exact isEncodable_digitsLoop (by decide) (by decide) _ _ isEncodable_nil

theorem isEncodable_ofInt (n : Int) : (ofInt n).IsEncodable := by
  cases n with
  | ofNat n => exact isEncodable_ofNat n
  | negSucc n => exact isEncodable_cons.mpr ⟨by decide, isEncodable_ofNat (n + 1)⟩

end Text

/-! ## Values -/

/-- Integers of few digits are not too long to be written. -/
theorem Value.isWritable_int {n : Int} {k : Nat} (hk : k ≤ maxDigits) (h : n.natAbs < 10 ^ k) :
    (Value.int n).isWritable = true := by
  rw [isWritable, decide_eq_true_eq, Nat.pow_eq]
  -- as a variable, so that nobody computes the power
  generalize maxDigits = d at hk ⊢
  exact h.trans_le (Nat.pow_le_pow_right (by decide) hk)

namespace Json

open Value (Mapping)

theorem name?_eq_self_iff {k : Value} :
    (name? k).map Value.text = some k ↔ isName k = true := by
  cases k <;> simp [name?, isName]

mutual

/-- **The values that come back as they were.** -/
theorem carried?_eq_self_iff (v : Value) : carried? v = some v ↔ isCarried v = true := by
  cases v with
  | list items => simp [carried?, isCarried, carriedItems?_eq_self_iff items]
  | mapping entries => simp [carried?, isCarried, carriedEntries?_eq_self_iff entries]
  | int n => simp [carried?, isCarried]
  | text t => simp [carried?, isCarried]
  | _ => simp [carried?, isCarried]

theorem carriedItems?_eq_self_iff (items : List Value) :
    carriedItems? items = some items ↔ areCarried items = true := by
  cases items with
  | nil => simp [carriedItems?, areCarried]
  | cons v rest =>
    rw [areCarried, Bool.and_eq_true, ← carried?_eq_self_iff v, ← carriedItems?_eq_self_iff rest]
    simp [carriedItems?, Option.bind_eq_some_iff]

theorem carriedEntries?_eq_self_iff (entries : List (Value × Value)) :
    carriedEntries? entries = some entries ↔ areEntriesCarried entries = true := by
  cases entries with
  | nil => simp [carriedEntries?, areEntriesCarried]
  | cons e rest =>
    obtain ⟨k, v⟩ := e
    rw [areEntriesCarried, Bool.and_eq_true, Bool.and_eq_true, ← name?_eq_self_iff,
      ← carried?_eq_self_iff v, ← carriedEntries?_eq_self_iff rest]
    cases hname : name? k <;> simp [carriedEntries?, Option.bind_eq_some_iff, hname, and_comm,
      and_left_comm]

end

/-! ## Objects -/

theorem areEntriesCarried_iff {entries : Mapping} : areEntriesCarried entries = true ↔
    ∀ e ∈ entries, isName e.1 = true ∧ isCarried e.2 = true := by
  induction entries with
  | nil => simp [areEntriesCarried]
  | cons e entries ih =>
    rw [areEntriesCarried, Bool.and_eq_true, Bool.and_eq_true, ih, List.forall_mem_cons]

section Writer

variable [Writer]

/-- A value that is written and comes back as it was. -/
def IsKept (v : Value) : Prop := isCarried v = true ∧ v.isWithin Writer.maxDepth = true

theorem isKept_text_iff {t : Text} : IsKept (.text t) ↔ t.joinPairs = t := by
  simp [IsKept, isCarried, Value.isWithin]

/-- **An object of values that are kept comes back as it was.** -/
theorem written?_of_isKept {entries : Mapping}
    (h : ∀ e ∈ entries, isName e.1 = true ∧ IsKept e.2) : written? entries = some entries := by
  have hdepth : (entries.all fun e => e.2.isWithin Writer.maxDepth) = true :=
    List.all_eq_true.mpr fun e he => (h e he).2.2
  rw [written?, if_pos hdepth, carriedEntries?_eq_self_iff, areEntriesCarried_iff]
  exact fun e he => ⟨(h e he).1, (h e he).2.1⟩

end Writer

end Json

end ThemeForge

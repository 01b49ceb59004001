import Mathlib.Algebra.Group.Nat.Defs
import Mathlib.Data.List.Chain
import ThemeForge.Json.StringBody
import ThemeForge.Proofs.Text.Utf8

/-!
# Reading back the body of a JSON string

* `Text.hex_four`: four digits for a number below 0x10000;
* `Json.escapeCode_cases`, `Json.readCodes?_escapeCode`: one code point, whatever follows it;
* **`Json.readBody?_escape`**: a body is read back up to its closing quote;
* `Json.isEncodable_escape`: a body holds no surrogate;
* `Text.joinPairs_eq_self`: when nothing is joined.
-/

namespace ThemeForge

/-! ## Digits -/

theorem Code.hexValue?_hexDigit : ∀ n < 16, (Code.hexDigit n).hexValue? = some n := by
  decide

theorem Code.not_isSurrogate_hexDigit : ∀ n < 16, ¬ (Code.hexDigit n).IsSurrogate := by
  decide

namespace Text

/-- The last `k` hexadecimal digits of a number. -/
def hexDigits : Nat → Nat → Text
  | 0, _ => []
  | k + 1, n => hexDigits k (n / 16) ++ [Code.hexDigit (n % 16)]

theorem digitsLoop_append (base fuel n : Nat) (acc : Text) :
    digitsLoop base fuel n acc = digitsLoop base fuel n [] ++ acc := by
  induction fuel generalizing n acc with
  | zero => rfl
  | succ fuel ih =>
    unfold digitsLoop
    by_cases hn : n = 0
    · simp only [if_pos hn, List.nil_append]
    · simp only [if_neg hn]
      rw [ih, ih (n / base) [_], List.append_assoc, List.singleton_append]

theorem padLeft_append_singleton (k : Nat) (c d : Code) (t : Text) :
    padLeft (k + 1) c (t ++ [d]) = padLeft k c t ++ [d] := by
  rw [padLeft, padLeft, List.length_append, List.length_singleton, Nat.add_sub_add_right,
    List.append_assoc]

theorem padLeft_digitsLoop {k fuel n : Nat} (hn : n < 16 ^ k) (hfuel : n < 2 ^ fuel) :
    padLeft k '0' (digitsLoop 16 fuel n []) = hexDigits k n := by
  induction k generalizing fuel n with
  | zero =>
    obtain rfl : n = 0 := by omega
    cases fuel <;> rfl
  | succ k ih =>
    rw [hexDigits]
    by_cases h0 : n = 0
    · subst h0
      have hzero : padLeft k '0' (digitsLoop 16 0 0 []) = hexDigits k 0 :=
        ih (Nat.pow_pos (by decide)) (by decide)
      have hdigits : digitsLoop 16 fuel 0 [] = [] := by
        cases fuel <;> rfl
      rw [Nat.zero_div, ← hzero, hdigits]
      simp only [digitsLoop, padLeft, List.append_nil, List.length_nil]
      exact List.replicate_succ'
    · cases fuel with
      | zero => omega
      | succ fuel =>
        rw [digitsLoop, if_neg h0, digitsLoop_append, padLeft_append_singleton, ih]
        · rw [Nat.pow_succ] at hn
          omega
        · rw [Nat.pow_succ] at hfuel
          omega

theorem hex_four {n : Nat} (h : n < 0x10000) : hex 4 n = hexDigits 4 n := by
  unfold hex ofNatBase
  by_cases h0 : n = 0
  · subst h0
    rfl
  · rw [if_neg h0]
    exact padLeft_digitsLoop h Nat.lt_log2_self

theorem hexDigits_four (n : Nat) : hexDigits 4 n = [Code.hexDigit (n / 4096 % 16),
    Code.hexDigit (n / 256 % 16), Code.hexDigit (n / 16 % 16), Code.hexDigit (n % 16)] := by
  simp [hexDigits, Nat.div_div_eq_div_mul]

end Text

namespace Json

/-! ## Code points -/

theorem fourDigits?_hexDigit {a b c d : Nat} (ha : a < 16) (hb : b < 16) (hc : c < 16)
    (hd : d < 16) : fourDigits? (Code.hexDigit a) (Code.hexDigit b) (Code.hexDigit c)
      (Code.hexDigit d) = some (.ofNat (((a * 16 + b) * 16 + c) * 16 + d)) := by
  unfold fourDigits?
  rw [Code.hexValue?_hexDigit a ha, Code.hexValue?_hexDigit b hb, Code.hexValue?_hexDigit c hc,
    Code.hexValue?_hexDigit d hd]
  rfl

theorem backslash_ne_quote : (Code.ofChar '\\') ≠ Code.ofChar '"' := by
  decide

theorem readCodes?_letter {e k : Code} (he : e ≠ 'u') (hk : letterEscape? e = some k)
    (t : Text) : readCodes? ('\\' :: e :: t) = (readCodes? t).map fun r => (k :: r.1, r.2) := by
  rw [readCodes?.eq_def]
  simp only [if_neg backslash_ne_quote, if_true, if_neg he, hk]
  cases readCodes? t <;> rfl

theorem readCodes?_number {c : Code} (h : c.val < 0x10000) (t : Text) :
    readCodes? (numberEscape c ++ t) = (readCodes? t).map fun r => (c :: r.1, r.2) := by
  have hcode : Code.ofNat (((c.val / 4096 % 16 * 16 + c.val / 256 % 16) * 16 +
      c.val / 16 % 16) * 16 + c.val % 16) = c := Utf8.ofNat_eq (by omega)
  have hread := fourDigits?_hexDigit (Nat.mod_lt (c.val / 4096) (by decide))
    (Nat.mod_lt (c.val / 256) (by decide)) (Nat.mod_lt (c.val / 16) (by decide))
    (Nat.mod_lt c.val (show 16 > 0 by decide))
  rw [hcode] at hread
  rw [numberEscape, Text.hex_four h, Text.hexDigits_four]
  change readCodes? ('\\' :: 'u' :: _ :: _ :: _ :: _ :: t) = _
  rw [readCodes?.eq_def]
  simp only [if_neg backslash_ne_quote, if_true, hread]
  cases readCodes? t <;> rfl

theorem readCodes?_plain {c : Code} (hq : c ≠ '"') (hb : c ≠ '\\') (hc : ¬ c.val < 0x20)
    (t : Text) : readCodes? (c :: t) = (readCodes? t).map fun r => (c :: r.1, r.2) := by
  rw [readCodes?.eq_def]
  simp only [if_neg hq, if_neg hb, if_neg hc]
  cases readCodes? t <;> rfl

/-- A code point is written as an escape of one letter, as one by number, or as itself. -/
theorem escapeCode_cases (c : Code) :
    (∃ e : Code, e ≠ 'u' ∧ ¬ e.IsSurrogate ∧ letterEscape? e = some c ∧
      escapeCode c = [Code.ofChar '\\', e]) ∨
    (c.val < 0x10000 ∧ escapeCode c = numberEscape c) ∨
    (c ≠ '"' ∧ c ≠ '\\' ∧ ¬ c.val < 0x20 ∧ ¬ c.IsSurrogate ∧ escapeCode c = [c]) := by
  by_cases hself : c = '"' ∨ c = '\\'
  · refine .inl ⟨c, ?_⟩
    rcases hself with rfl | rfl <;> exact ⟨by decide, by decide, rfl, rfl⟩
  by_cases hn : c = '\n'
  · exact .inl ⟨'n', by decide, by decide, hn ▸ rfl, hn ▸ rfl⟩
  by_cases hr : c = '\r'
  · exact .inl ⟨'r', by decide, by decide, hr ▸ rfl, hr ▸ rfl⟩
  by_cases ht : c = '\t'
  · exact .inl ⟨'t', by decide, by decide, ht ▸ rfl, ht ▸ rfl⟩
  by_cases hf : c = '\x0c'
  · exact .inl ⟨'f', by decide, by decide, hf ▸ rfl, hf ▸ rfl⟩
  by_cases hb : c = '\x08'
  · exact .inl ⟨'b', by decide, by decide, hb ▸ rfl, hb ▸ rfl⟩
  have hrest : escapeCode c = if c.val < 0x20 ∨ c.IsSurrogate then numberEscape c else [c] := by
    rw [escapeCode, if_neg hself, if_neg hn, if_neg hr, if_neg ht, if_neg hf, if_neg hb]
  by_cases hnumber : c.val < 0x20 ∨ c.IsSurrogate
  · refine .inr (.inl ⟨?_, by rw [hrest, if_pos hnumber]⟩)
    unfold Code.IsSurrogate at hnumber
    omega
  · rw [if_neg hnumber] at hrest
    rw [not_or] at hself hnumber
    exact .inr (.inr ⟨hself.1, hself.2, hnumber.1, hnumber.2, hrest⟩)

/-- An escaped code point is read back, whatever follows it. -/
theorem readCodes?_escapeCode (c : Code) (t : Text) :
    readCodes? (escapeCode c ++ t) = (readCodes? t).map fun r => (c :: r.1, r.2) := by
  rcases escapeCode_cases c with ⟨e, he, -, hletter, hc⟩ | ⟨hsmall, hc⟩ | ⟨hq, hb, hlow, -, hc⟩
  · rw [hc]
    exact readCodes?_letter he hletter t
  · rw [hc]
    exact readCodes?_number hsmall t
  · rw [hc]
    exact readCodes?_plain hq hb hlow t

theorem readCodes?_escape (t rest : Text) :
    readCodes? (escape t ++ Code.ofChar '"' :: rest) = some (t, rest) := by
  induction t with
  | nil =>
    change readCodes? (Code.ofChar '"' :: rest) = _
    rw [readCodes?.eq_def]
    exact if_pos rfl
  | cons c t ih =>
    have hescape : escape (c :: t) = escapeCode c ++ escape t := List.flatMap_cons
    rw [hescape, List.append_assoc, readCodes?_escapeCode, ih]
    rfl

/-- **The body of a text is read back up to its closing quote**, but for surrogate pairs, which are
joined. -/
theorem readBody?_escape (t rest : Text) :
    readBody? (escape t ++ Code.ofChar '"' :: rest) = some (t.joinPairs, rest) := by
  rw [readBody?, readCodes?_escape]
  rfl

/-! ## Surrogates -/

theorem isEncodable_numberEscape {c : Code} (h : c.val < 0x10000) :
    (numberEscape c).IsEncodable := by
  rw [numberEscape, Text.hex_four h, Text.hexDigits_four, Text.isEncodable_append]
  have hdigit (n : Nat) : ¬ (Code.hexDigit (n % 16)).IsSurrogate :=
    Code.not_isSurrogate_hexDigit _ (Nat.mod_lt n (by decide))
  refine ⟨by unfold Text.IsEncodable; decide, fun d hd => ?_⟩
  simp only [List.mem_cons, List.not_mem_nil, or_false] at hd
  rcases hd with rfl | rfl | rfl | rfl <;> exact hdigit _

theorem isEncodable_escapeCode (c : Code) : (escapeCode c).IsEncodable := by
  rcases escapeCode_cases c with ⟨e, -, he, -, hc⟩ | ⟨hsmall, hc⟩ | ⟨-, -, -, hs, hc⟩
  · rw [hc]
    exact Text.isEncodable_cons.mpr
      ⟨by decide, Text.isEncodable_cons.mpr ⟨he, Text.isEncodable_nil⟩⟩
  · rw [hc]
    exact isEncodable_numberEscape hsmall
  · rw [hc]
    exact Text.isEncodable_cons.mpr ⟨hs, Text.isEncodable_nil⟩

theorem isEncodable_escape (t : Text) : (escape t).IsEncodable := by
  intro d hd
  obtain ⟨c, -, hc⟩ := List.mem_flatMap.mp hd
  exact isEncodable_escapeCode c d hc

end Json

/-- Where no high surrogate stands right before a low one, there is nothing to join. -/
theorem Text.joinPairs_eq_self {t : Text}
    (h : t.IsChain fun a b => ¬ (a.IsHigh ∧ b.IsLow)) : t.joinPairs = t := by
  induction t with
  | nil => rfl
  | cons a t ih =>
    cases t with
    | nil => rfl
    | cons b t =>
      obtain ⟨hab, ht⟩ := List.isChain_cons_cons.mp h
      rw [joinPairs, if_neg hab, ih ht]

end ThemeForge

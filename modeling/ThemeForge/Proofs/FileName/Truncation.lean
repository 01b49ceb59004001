import Mathlib.Data.List.TakeDrop
import ThemeForge.Proofs.Text.Utf8

/-!
# Cut texts

A text that has to fit into a number of bytes keeps the longest beginning that does. The bytes that
are cut off may begin inside a character; of that character nothing is left.

* `Text.exists_take_bytes`: cut bytes are those of the beginning that fits, and part of one
  character;
* `Text.isPrefix_fit`: no longer beginning fits;
* `Text.IsLongest`: the longest beginning, by the bytes that are written for it;
* **`truncation_longest`**: what a cut leaves.
-/

namespace ThemeForge

namespace Text

/-- Cut bytes are those of the beginning that fits, and a proper part of what stands for the next
character. -/
theorem exists_take_bytes (limit : Nat) (t : Text) :
    ∃ part, t.bytes.take limit = (t.fit limit).bytes ++ part ∧
      (part = [] ∨ ∃ c rest, t = t.fit limit ++ c :: rest ∧ part <+: c.utf8 ∧ part ≠ c.utf8) := by
  induction t generalizing limit with
  | nil => exact ⟨[], by simp [fit], .inl rfl⟩
  | cons c t ih =>
    rw [bytes_cons, List.take_append, fit]
    split
    · rename_i h
      obtain ⟨part, hpart, hcases⟩ := ih (limit - c.utf8.length)
      refine ⟨part, by rw [List.take_of_length_le h, hpart, bytes_cons, List.append_assoc], ?_⟩
      rcases hcases with hnil | ⟨d, rest, ht, hprefix, hne⟩
      · exact .inl hnil
      · exact .inr ⟨d, rest, by rw [List.cons_append, ← ht], hprefix, hne⟩
    · rename_i h
      rw [Nat.sub_eq_zero_of_le (by omega), List.take_zero, List.append_nil]
      refine ⟨_, rfl, .inr ⟨c, t, rfl, List.take_prefix _ _, fun heq => h ?_⟩⟩
      exact (List.take_eq_self_iff _).mp heq

/-- **No longer beginning fits.** -/
theorem isPrefix_fit {limit : Nat} {t q : Text} (hq : q <+: t) (hlength : q.bytes.length ≤ limit) :
    q <+: t.fit limit := by
  rcases List.prefix_or_prefix_of_prefix hq (fit_isPrefix limit t) with h | ⟨_ | ⟨c, r⟩, rfl⟩
  · exact h
  · simp
  · -- then the first character that is missing would have fitted
    obtain ⟨rest, ht⟩ := hq
    rw [List.append_assoc, List.cons_append] at ht
    have hlt := lt_length_of_fit ht
    rw [bytes_append, bytes_cons, List.length_append, List.length_append] at hlength
    omega

/-- `p` is the longest beginning of `t` of which at most `limit` bytes are written. -/
structure IsLongest (limit : Nat) (t p : Text) : Prop where
  isPrefix : p <+: t
  fits : ∃ bytes, p.encode? = .ok bytes ∧ bytes.length ≤ limit
  longest : ∀ (q : Text) (bytes : Bytes),
    q <+: t → q.encode? = .ok bytes → bytes.length ≤ limit → q <+: p

theorem isLongest_fit {t : Text} (ht : t.IsEncodable) (limit : Nat) :
    IsLongest limit t (t.fit limit) where
  isPrefix := fit_isPrefix limit t
  fits := ⟨_, encode?_eq_ok_iff.mpr ⟨fun c hc => ht c ((fit_isPrefix limit t).subset hc), rfl⟩,
    length_bytes_fit_le limit t⟩
  longest := by
    intro q bytes hq hbytes hlength
    obtain ⟨-, rfl⟩ := encode?_eq_ok_iff.mp hbytes
    exact isPrefix_fit hq hlength

end Text

namespace FileName

/-- **A cut leaves the longest beginning that fits.** It never fails on a text without surrogates.
The bytes that it keeps are those of this beginning, and perhaps some of the next character, but not
all of them; reading them lossily gives the beginning, so that no other character is dropped,
altered or made up. -/
theorem truncation_longest {t : Text} (ht : t.IsEncodable) (limit : Nat) :
    ∃ p, truncate? t limit = .ok p ∧ Text.IsLongest limit t p ∧
      ∃ bytes whole part, t.encode? = .ok bytes ∧ p.encode? = .ok whole ∧
        bytes.take limit = whole ++ part ∧ Utf8.decodeLossy (bytes.take limit) = p ∧
        (part = [] ∨ ∃ c rest, t = p ++ c :: rest ∧ part <+: c.utf8 ∧ part ≠ c.utf8) := by
  have hlongest := Text.isLongest_fit ht limit
  obtain ⟨whole, hwhole, -⟩ := hlongest.fits
  obtain ⟨part, hpart, hcases⟩ := Text.exists_take_bytes limit t
  refine ⟨t.fit limit, truncate?_eq ht limit, hlongest, t.bytes, whole, part,
    Text.encode?_eq_ok_iff.mpr ⟨ht, rfl⟩, hwhole, ?_, Text.decodeLossy_take_bytes ht limit, hcases⟩
  rw [hpart, (Text.encode?_eq_ok_iff.mp hwhole).2]

/-- Two of the three bytes of the euro sign would have fitted. -/
theorem truncation_longest_euro :
    let t : Text := "aé€😀"
    t.IsEncodable ∧ truncate? t 5 = .ok "aé" ∧ Text.IsLongest 5 t "aé" ∧
      ∃ bytes, t.encode? = .ok bytes ∧ Utf8.decodeLossy (bytes.take 5) = "aé" := by
  intro t
  have ht : t.IsEncodable := by decide
  have hcut : truncate? t 5 = .ok "aé" := by decide
  obtain ⟨p, hp, hlongest, bytes, _, _, hbytes, -, -, hlossy, -⟩ := truncation_longest ht 5
  cases Except.ok.inj (hp.symm.trans hcut)
  exact ⟨ht, hcut, hlongest, bytes, hbytes, hlossy⟩

end FileName

end ThemeForge

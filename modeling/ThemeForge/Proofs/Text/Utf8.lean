import ThemeForge.FileName.Stem

/-!
# Writing and reading UTF-8

What is written is read again, and a cut costs at most the character it goes through.

* `Utf8.Spells`, `Utf8.utf8_cases`: the bytes of a character, as the reader sees them;
* **`Utf8.pieces_utf8_append`**: the reader finds a written code point, whatever follows it;
* `Text.IsEncodable`, `Text.bytes`, `Text.encode?_eq_ok_iff`, `Text.decode?_bytes`: whole texts;
* `Text.fit`, **`Text.decodeLossy_take_bytes`**, `FileName.truncate?_eq`: cutting to a number of
  bytes gives the longest beginning that fits.
-/

namespace ThemeForge

theorem Code.length_utf8_le (c : Code) : c.utf8.length ≤ 4 := by
  simp only [utf8]
  split
  · simp
  · split
    · simp
    · split <;> simp

namespace Utf8

/-- Every byte of `tails` may follow the ones before it, the first of which follow `held`. -/
def Follows (held : Bytes) : Bytes → Prop
  | [] => True
  | b :: tails => continues held b = true ∧ Follows (held ++ [b]) tails

theorem Follows.take {held tails : Bytes} (h : Follows held tails) (k : Nat) :
    Follows held (tails.take k) := by
  induction tails generalizing held k with
  | nil => simpa using h
  | cons b tails ih =>
    cases k with
    | zero => exact trivial
    | succ k => exact ⟨h.1, ih h.2 k⟩

theorem piecesAfter_whole {held tails : Bytes} (rest : Bytes) (hheld : held ≠ [])
    (htails : tails ≠ []) (h : Follows held tails)
    (hlen : held.length + tails.length = width (held.headD 0)) :
    piecesAfter held (tails ++ rest) = .code (assemble (held ++ tails)) :: pieces rest := by
  induction tails generalizing held with
  | nil => exact absurd rfl htails
  | cons b tails ih =>
    have hhead : (held ++ [b]).headD 0 = held.headD 0 := by
      cases held with
      | nil => exact absurd rfl hheld
      | cons => rfl
    simp only [List.length_cons] at hlen
    rw [List.cons_append, piecesAfter, if_pos (by simp [hheld, h.1])]
    by_cases ht : tails = []
    · subst ht
      simp only [List.length_nil, Nat.zero_add] at hlen
      rw [if_pos (by rw [hhead, List.length_append]; exact hlen)]
      rfl
    · have hpos : 0 < tails.length := List.length_pos_iff.mpr ht
      rw [if_neg (by rw [hhead, List.length_append, List.length_singleton]; omega),
        ih (by simp) ht h.2 (by rw [hhead, List.length_append, List.length_singleton]; omega),
        List.append_assoc, List.singleton_append]

theorem piecesAfter_part {held tails : Bytes} (hheld : held ≠ []) (h : Follows held tails)
    (hlen : held.length + tails.length < width (held.headD 0)) :
    piecesAfter held tails = [.malformed (held ++ tails) .truncated] := by
  induction tails generalizing held with
  | nil => simp [piecesAfter, broken, hheld]
  | cons b tails ih =>
    have hhead : (held ++ [b]).headD 0 = held.headD 0 := by
      cases held with
      | nil => exact absurd rfl hheld
      | cons => rfl
    simp only [List.length_cons] at hlen
    rw [piecesAfter, if_pos (by simp [hheld, h.1]),
      if_neg (by rw [hhead, List.length_append, List.length_singleton]; omega),
      ih (by simp) h.2 (by rw [hhead, List.length_append, List.length_singleton]; omega),
      List.append_assoc, List.singleton_append]


/-- The bytes `a :: tails` are the form of the code point `c`, which takes several bytes. -/
structure Spells (c : Code) (a : UInt8) (tails : Bytes) : Prop where
  ne_nil : tails ≠ []
  lead : isLead a = true
  follows : Follows [a] tails
  length_eq : tails.length + 1 = width a
  assemble_eq : assemble (a :: tails) = c

theorem toNat_toUInt8 {n : Nat} (h : n < 0x100) : n.toUInt8.toNat = n := by
  rw [Nat.toUInt8_eq, UInt8.toNat_ofNat', Nat.mod_eq_of_lt h]

theorem isTail_toUInt8 {n : Nat} (h : 0x80 ≤ n ∧ n < 0xc0) : isTail n.toUInt8 = true := by
  simp only [isTail, UInt8.lt_iff_toNat_lt, UInt8.le_iff_toNat_le, Bool.and_eq_true,
    decide_eq_true_eq, toNat_toUInt8 (show n < 0x100 by omega)]
  exact h

theorem isLead_toUInt8 {n : Nat} (h : 0xc2 ≤ n ∧ n < 0xf5) : isLead n.toUInt8 = true := by
  simp only [isLead, UInt8.lt_iff_toNat_lt, UInt8.le_iff_toNat_le, Bool.and_eq_true,
    decide_eq_true_eq, toNat_toUInt8 (show n < 0x100 by omega)]
  exact h

theorem width_toUInt8 {n : Nat} (h : n < 0x100) :
    width n.toUInt8 = if n < 0xe0 then 2 else if n < 0xf0 then 3 else 4 := by
  simp only [width, UInt8.lt_iff_toNat_lt, toNat_toUInt8 h]
  rfl

/-- The bounds of the second byte: nothing overlong, no surrogate, nothing above U+10FFFF. -/
theorem continues_toUInt8 {m n : Nat} (hm : m < 0x100) (hn : 0x80 ≤ n ∧ n < 0xc0)
    (he0 : m = 0xe0 → 0xa0 ≤ n) (hed : m = 0xed → n < 0xa0) (hf0 : m = 0xf0 → 0x90 ≤ n)
    (hf4 : m = 0xf4 → n < 0x90) : continues [m.toUInt8] n.toUInt8 = true := by
  simp only [continues, isTail_toUInt8 hn, Bool.true_and, Bool.and_eq_true, Bool.or_eq_true,
    bne_iff_ne, ne_eq, ← UInt8.toNat_inj, UInt8.lt_iff_toNat_lt, UInt8.le_iff_toNat_le,
    decide_eq_true_eq, toNat_toUInt8 hm, toNat_toUInt8 (show n < 0x100 by omega)]
  refine ⟨⟨⟨?_, ?_⟩, ?_⟩, ?_⟩ <;> simp only [UInt8.reduceToNat] <;> omega

theorem continues_cons_cons (a a' : UInt8) (held : Bytes) (b : UInt8) :
    continues (a :: a' :: held) b = isTail b := Bool.and_true _

theorem ofNat_eq {c : Code} {n : Nat} (h : n = c.val) : Code.ofNat n = c := by
  subst h
  rw [Code.ofNat, dif_pos c.isLt]

theorem assemble_two (a b : UInt8) :
    assemble [a, b] = .ofNat (a.toNat % 0x20 * 0x40 + b.toNat % 0x40) := rfl

theorem assemble_three (a b₁ b₂ : UInt8) : assemble [a, b₁, b₂] =
    .ofNat ((a.toNat % 0x10 * 0x40 + b₁.toNat % 0x40) * 0x40 + b₂.toNat % 0x40) := rfl

theorem assemble_four (a b₁ b₂ b₃ : UInt8) : assemble [a, b₁, b₂, b₃] =
    .ofNat (((a.toNat % 0x8 * 0x40 + b₁.toNat % 0x40) * 0x40 + b₂.toNat % 0x40) * 0x40
      + b₃.toNat % 0x40) := rfl

theorem spells_two {c : Code} (h : 0x80 ≤ c.val) (h' : c.val < 0x800) :
    Spells c (0xc0 + c.val / 0x40).toUInt8 [(0x80 + c.val % 0x40).toUInt8] where
  ne_nil := by simp
  lead := isLead_toUInt8 (by omega)
  follows := ⟨continues_toUInt8 (by omega) (by omega) (by omega) (by omega) (by omega) (by omega),
    trivial⟩
  length_eq := by rw [width_toUInt8 (by omega), if_pos (by omega)]; rfl
  assemble_eq := by
    rw [assemble_two, toNat_toUInt8 (by omega), toNat_toUInt8 (by omega)]
    exact ofNat_eq (by omega)

theorem spells_three {c : Code} (hc : ¬ c.IsSurrogate) (h : 0x800 ≤ c.val)
    (h' : c.val < 0x10000) :
    Spells c (0xe0 + c.val / 0x1000).toUInt8
      [(0x80 + c.val / 0x40 % 0x40).toUInt8, (0x80 + c.val % 0x40).toUInt8] where
  ne_nil := by simp
  lead := isLead_toUInt8 (by omega)
  follows := by
    rw [Code.IsSurrogate] at hc
    exact ⟨continues_toUInt8 (by omega) (by omega) (by omega) (by omega) (by omega) (by omega),
      (continues_cons_cons _ _ _ _).trans (isTail_toUInt8 (by omega)), trivial⟩
  length_eq := by rw [width_toUInt8 (by omega), if_neg (by omega), if_pos (by omega)]; rfl
  assemble_eq := by
    rw [assemble_three, toNat_toUInt8 (by omega), toNat_toUInt8 (by omega),
      toNat_toUInt8 (by omega)]
    exact ofNat_eq (by omega)

theorem spells_four {c : Code} (h : 0x10000 ≤ c.val) :
    Spells c (0xf0 + c.val / 0x40000).toUInt8
      [(0x80 + c.val / 0x1000 % 0x40).toUInt8, (0x80 + c.val / 0x40 % 0x40).toUInt8,
        (0x80 + c.val % 0x40).toUInt8] where
  ne_nil := by simp
  lead := isLead_toUInt8 (by have := c.isLt; omega)
  follows := by
    have := c.isLt
    exact ⟨continues_toUInt8 (by omega) (by omega) (by omega) (by omega) (by omega) (by omega),
      (continues_cons_cons _ _ _ _).trans (isTail_toUInt8 (by omega)),
      (continues_cons_cons _ _ _ _).trans (isTail_toUInt8 (by omega)), trivial⟩
  length_eq := by
    have := c.isLt
    rw [width_toUInt8 (by omega), if_neg (by omega), if_neg (by omega)]
    rfl
  assemble_eq := by
    have := c.isLt
    rw [assemble_four, toNat_toUInt8 (by omega), toNat_toUInt8 (by omega),
      toNat_toUInt8 (by omega), toNat_toUInt8 (by omega)]
    exact ofNat_eq (by omega)

/-- The form of a code point is an ASCII byte, or a lead byte with the bytes it asks for. -/
theorem utf8_cases {c : Code} (hc : ¬ c.IsSurrogate) :
    (c.val < 0x80 ∧ c.utf8 = [c.val.toUInt8]) ∨
      ∃ a tails, c.utf8 = a :: tails ∧ Spells c a tails := by
  rcases Nat.lt_or_ge c.val 0x80 with h1 | h1
  · exact .inl ⟨h1, by rw [Code.utf8, if_pos h1]⟩
  rcases Nat.lt_or_ge c.val 0x800 with h2 | h2
  · exact .inr ⟨_, _, by rw [Code.utf8, if_neg (by omega), if_pos h2], spells_two h1 h2⟩
  rcases Nat.lt_or_ge c.val 0x10000 with h3 | h3
  · exact .inr ⟨_, _, by rw [Code.utf8, if_neg (by omega), if_neg (by omega), if_pos h3],
      spells_three hc h2 h3⟩
  · exact .inr ⟨_, _, by rw [Code.utf8, if_neg (by omega), if_neg (by omega), if_neg (by omega)],
      spells_four h3⟩

theorem piecesAfter_lead {a : UInt8} (ha : isLead a = true) (rest : Bytes) :
    piecesAfter [] (a :: rest) = piecesAfter [a] rest := by
  have hlt : ¬ a < 0x80 := by
    simp only [isLead, Bool.and_eq_true, decide_eq_true_eq, UInt8.le_iff_toNat_le,
      UInt8.lt_iff_toNat_lt, UInt8.reduceToNat] at ha ⊢
    omega
  rw [piecesAfter, if_neg (by simp), if_neg hlt, if_pos ha]
  rfl

/-- **Reading finds a code point again, whatever follows it.** -/
theorem pieces_utf8_append {c : Code} (hc : ¬ c.IsSurrogate) (rest : Bytes) :
    pieces (c.utf8 ++ rest) = .code c :: pieces rest := by
  rcases utf8_cases hc with ⟨hlt, heq⟩ | ⟨a, tails, heq, hs⟩
  · have hb : c.val.toUInt8 < 0x80 := by
      rw [UInt8.lt_iff_toNat_lt, toNat_toUInt8 (by omega)]
      exact hlt
    rw [heq, List.singleton_append, pieces, piecesAfter, if_neg (by simp), if_pos hb,
      toNat_toUInt8 (by omega), ofNat_eq rfl]
    rfl
  · have hlen : [a].length + tails.length = width ([a].headD 0) := by
      rw [List.headD_cons, ← hs.length_eq, List.length_singleton, Nat.add_comm]
    rw [heq, List.cons_append, pieces, piecesAfter_lead hs.lead,
      piecesAfter_whole rest (by simp) hs.ne_nil hs.follows hlen, List.singleton_append,
      hs.assemble_eq]

/-- A character that is cut short gives no code point. -/
theorem decodeLossy_take_utf8 {c : Code} (hc : ¬ c.IsSurrogate) {k : Nat}
    (hk : k < c.utf8.length) : decodeLossy (c.utf8.take k) = [] := by
  cases k with
  | zero => rfl
  | succ k =>
    rcases utf8_cases hc with ⟨_, heq⟩ | ⟨a, tails, heq, hs⟩
    · rw [heq, List.length_singleton] at hk
      omega
    · rw [heq, List.length_cons] at hk
      have hlen : [a].length + (tails.take k).length < width ([a].headD 0) := by
        rw [List.length_singleton, List.length_take, List.headD_cons, ← hs.length_eq]
        omega
      rw [heq, List.take_succ_cons, decodeLossy, pieces, piecesAfter_lead hs.lead,
        piecesAfter_part (by simp) (hs.follows.take k) hlen]
      rfl

theorem decodeLossy_utf8_append {c : Code} (hc : ¬ c.IsSurrogate) (rest : Bytes) :
    decodeLossy (c.utf8 ++ rest) = c :: decodeLossy rest := by
  rw [decodeLossy, pieces_utf8_append hc]
  rfl

end Utf8

namespace Text

/-- Without surrogates, so that it can be written as UTF-8. -/
def IsEncodable (t : Text) : Prop := ∀ c ∈ t, ¬ c.IsSurrogate

instance (t : Text) : Decidable t.IsEncodable :=
  inferInstanceAs (Decidable (∀ c ∈ t, ¬ c.IsSurrogate))

/-- The bytes of a text without surrogates. -/
def bytes (t : Text) : Bytes := t.flatMap Code.utf8

@[simp] theorem bytes_nil : bytes [] = [] := rfl

@[simp] theorem bytes_cons (c : Code) (t : Text) : bytes (c :: t) = c.utf8 ++ bytes t :=
  List.flatMap_cons

@[simp] theorem bytes_append (s t : Text) : bytes (s ++ t) = bytes s ++ bytes t :=
  List.flatMap_append

theorem isEncodable_nil : IsEncodable [] := fun _ h => absurd h List.not_mem_nil

theorem isEncodable_cons {c : Code} {t : Text} :
    IsEncodable (c :: t) ↔ ¬ c.IsSurrogate ∧ IsEncodable t := List.forall_mem_cons

theorem isEncodable_append {s t : Text} :
    IsEncodable (s ++ t) ↔ IsEncodable s ∧ IsEncodable t := List.forall_mem_append

theorem encodeFrom?_of_isEncodable {t : Text} (ht : t.IsEncodable) (pos : Nat) :
    Utf8.encodeFrom? pos t = .ok t.bytes := by
  induction t generalizing pos with
  | nil => rfl
  | cons c t ih =>
    obtain ⟨hc, ht⟩ := isEncodable_cons.mp ht
    rw [Utf8.encodeFrom?, if_neg hc, ih ht]
    rfl

theorem encodeFrom?_of_not_isEncodable {t : Text} (ht : ¬ t.IsEncodable) (pos : Nat) :
    ∃ f, Utf8.encodeFrom? pos t = .error f := by
  induction t generalizing pos with
  | nil => exact absurd isEncodable_nil ht
  | cons c t ih =>
    rw [Utf8.encodeFrom?]
    split
    · exact ⟨_, rfl⟩
    · rename_i hc
      obtain ⟨f, hf⟩ := ih (fun h => ht (isEncodable_cons.mpr ⟨hc, h⟩)) (pos + 1)
      exact ⟨f, by rw [hf]; rfl⟩

/-- **A text has a UTF-8 form exactly if it holds no surrogate.** -/
theorem encode?_eq_ok_iff {t : Text} {b : Bytes} :
    t.encode? = .ok b ↔ t.IsEncodable ∧ b = t.bytes := by
  by_cases ht : t.IsEncodable
  · rw [encode?, encodeFrom?_of_isEncodable ht, Except.ok.injEq]
    exact ⟨fun h => ⟨ht, h.symm⟩, fun h => h.2.symm⟩
  · obtain ⟨f, hf⟩ := encodeFrom?_of_not_isEncodable ht 0
    rw [encode?, hf]
    exact ⟨(nomatch ·), fun h => absurd h.1 ht⟩

theorem length_bytes_le (t : Text) : t.bytes.length ≤ 4 * t.length := by
  induction t with
  | nil => simp
  | cons c t ih =>
    have := c.length_utf8_le
    rw [bytes_cons, List.length_append, List.length_cons]
    omega

theorem codesFrom?_pieces_bytes {t : Text} (ht : t.IsEncodable) (pos : Nat) :
    Utf8.codesFrom? pos (Utf8.pieces t.bytes) = .ok t := by
  induction t generalizing pos with
  | nil => rfl
  | cons c t ih =>
    obtain ⟨hc, ht⟩ := isEncodable_cons.mp ht
    rw [bytes_cons, Utf8.pieces_utf8_append hc, Utf8.codesFrom?, ih ht]
    rfl

/-- **Strict reading gives a written text back.** -/
theorem decode?_bytes {t : Text} (ht : t.IsEncodable) : Utf8.decode? t.bytes = .ok t :=
  codesFrom?_pieces_bytes ht 0

/-! ## Cutting -/

/-- The longest beginning of a text that takes at most `limit` bytes. -/
def fit : Nat → Text → Text
  | _, [] => []
  | limit, c :: rest =>
    if c.utf8.length ≤ limit then c :: fit (limit - c.utf8.length) rest else []

theorem fit_isPrefix (limit : Nat) (t : Text) : t.fit limit <+: t := by
  induction t generalizing limit with
  | nil => exact List.nil_prefix
  | cons c t ih =>
    rw [fit]
    split
    · exact (List.prefix_cons_inj c).mpr (ih _)
    · exact List.nil_prefix

theorem length_bytes_fit_le (limit : Nat) (t : Text) : (t.fit limit).bytes.length ≤ limit := by
  induction t generalizing limit with
  | nil => exact Nat.zero_le _
  | cons c t ih =>
    rw [fit]
    split
    · have := ih (limit - c.utf8.length)
      rw [bytes_cons, List.length_append]
      omega
    · exact Nat.zero_le _

/-- What follows the cut would not have fitted. -/
theorem lt_length_of_fit {limit : Nat} {t rest : Text} {c : Code}
    (h : t.fit limit ++ c :: rest = t) :
    limit < (t.fit limit).bytes.length + c.utf8.length := by
  induction t generalizing limit with
  | nil => simp [fit] at h
  | cons d t ih =>
    rw [fit] at h ⊢
    split
    · rename_i hd
      rw [if_pos hd, List.cons_append, List.cons.injEq] at h
      have := ih h.2
      rw [bytes_cons, List.length_append]
      omega
    · rename_i hd
      rw [if_neg hd, List.nil_append, List.cons.injEq] at h
      rw [h.1, bytes_nil, List.length_nil]
      omega

theorem fit_eq_self {limit : Nat} {t : Text} (h : t.bytes.length ≤ limit) : t.fit limit = t := by
  induction t generalizing limit with
  | nil => rfl
  | cons c t ih =>
    rw [bytes_cons, List.length_append] at h
    rw [fit, if_pos (by omega), ih (by omega)]

/-- **Lossy reading of a text that was cut drops the character that was split and no other.** -/
theorem decodeLossy_take_bytes {t : Text} (ht : t.IsEncodable) (limit : Nat) :
    Utf8.decodeLossy (t.bytes.take limit) = t.fit limit := by
  induction t generalizing limit with
  | nil => rw [bytes_nil, List.take_nil]; rfl
  | cons c t ih =>
    obtain ⟨hc, ht⟩ := isEncodable_cons.mp ht
    rw [bytes_cons, List.take_append, fit]
    split
    · rename_i h
      rw [List.take_of_length_le h, Utf8.decodeLossy_utf8_append hc, ih ht]
    · rename_i h
      rw [Nat.sub_eq_zero_of_le (by omega), List.take_zero, List.append_nil,
        Utf8.decodeLossy_take_utf8 hc (by omega)]

end Text

theorem FileName.truncate?_eq {t : Text} (ht : t.IsEncodable) (limit : Nat) :
    FileName.truncate? t limit = .ok (t.fit limit) := by
  rw [truncate?, Text.encode?_eq_ok_iff.mpr ⟨ht, rfl⟩]
  change Except.ok (if t.bytes.length ≤ limit then t else _) = _
  split
  · rename_i h
    rw [Text.fit_eq_self h]
  · rw [Text.decodeLossy_take_bytes ht]

end ThemeForge

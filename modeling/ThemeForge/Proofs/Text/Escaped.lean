import Mathlib.Data.List.Basic
import ThemeForge.Proofs.Text.Utf8

/-!
# The bytes of file names

Which texts have bytes as file names, and what is read from bytes that need not be UTF-8: every
byte string is read as some text, and is what that text is written as.

* `Text.IsEscapable`, `Text.escapedBytes`, `Text.encodeEscaped?_eq_ok_iff`: the bytes of a name;
* `Utf8.Begins`, `Utf8.utf8_assemble`: characters from the reader's side;
* **`Utf8.encodeEscaped?_decodeEscaped`**: names that were read are written back.
-/

namespace ThemeForge

namespace Code

theorem utf8_of_lt {c : Code} (h : c.val < 0x80) : c.utf8 = [c.val.toUInt8] := if_pos h

theorem le_toNat_of_mem_utf8 {c : Code} (h : 0x80 ≤ c.val) {b : UInt8} (hb : b ∈ c.utf8) :
    0x80 ≤ b.toNat := by
  have hlt := c.isLt
  unfold utf8 at hb
  simp only [if_neg (Nat.not_lt.mpr h)] at hb
  by_cases h2 : c.val < 0x800
  · simp only [if_pos h2, List.mem_cons, List.not_mem_nil, or_false] at hb
    rcases hb with rfl | rfl <;> rw [Utf8.toNat_toUInt8 (by omega)] <;> omega
  · by_cases h3 : c.val < 0x10000
    · simp only [if_neg h2, if_pos h3, List.mem_cons, List.not_mem_nil, or_false] at hb
      rcases hb with rfl | rfl | rfl <;> rw [Utf8.toNat_toUInt8 (by omega)] <;> omega
    · simp only [if_neg h2, if_neg h3, List.mem_cons, List.not_mem_nil, or_false] at hb
      rcases hb with rfl | rfl | rfl | rfl <;> rw [Utf8.toNat_toUInt8 (by omega)] <;> omega

theorem utf8_eq_of_mem_of_lt {c : Code} {b : UInt8} (hb : b ∈ c.utf8) (h : b.toNat < 0x80) :
    c.utf8 = [b] ∧ c.val = b.toNat := by
  have hc : c.val < 0x80 := Nat.lt_of_not_le fun hc => by
    have := le_toNat_of_mem_utf8 hc hb
    omega
  rw [utf8_of_lt hc, List.mem_singleton] at hb
  subst hb
  exact ⟨utf8_of_lt hc, (Utf8.toNat_toUInt8 (by omega)).symm⟩

end Code

namespace Text

/-- The bytes of a code point in a file name. -/
def escapedForm (c : Code) : Bytes :=
  match Utf8.escapedByte? c with
  | some b => [b]
  | none => c.utf8

/-- Every surrogate stands for a byte. -/
def IsEscapable (t : Text) : Prop := ∀ c ∈ t, c.IsSurrogate → (Utf8.escapedByte? c).isSome

/-- The bytes of a file name. -/
def escapedBytes (t : Text) : Bytes := t.flatMap escapedForm

theorem isEscapable_cons {c : Code} {t : Text} : IsEscapable (c :: t) ↔
    (c.IsSurrogate → (Utf8.escapedByte? c).isSome) ∧ IsEscapable t := List.forall_mem_cons

@[simp] theorem escapedBytes_nil : escapedBytes [] = [] := rfl

@[simp] theorem escapedBytes_cons (c : Code) (t : Text) :
    escapedBytes (c :: t) = escapedForm c ++ escapedBytes t := List.flatMap_cons

theorem escapedBytes_append (s t : Text) :
    escapedBytes (s ++ t) = escapedBytes s ++ escapedBytes t := List.flatMap_append

theorem encodeEscapedFrom?_of_isEscapable {t : Text} (ht : t.IsEscapable) (pos : Nat) :
    Utf8.encodeEscapedFrom? pos t = .ok t.escapedBytes := by
  induction t generalizing pos with
  | nil => rfl
  | cons c t ih =>
    obtain ⟨hc, ht⟩ := isEscapable_cons.mp ht
    rw [Utf8.encodeEscapedFrom?, ih ht, escapedBytes_cons, escapedForm]
    cases hb : Utf8.escapedByte? c with
    | some b => rfl
    | none =>
      rw [if_neg (fun h => by simpa [hb] using hc h)]
      rfl

theorem encodeEscapedFrom?_of_not_isEscapable {t : Text} (ht : ¬ t.IsEscapable) (pos : Nat) :
    ∃ f, Utf8.encodeEscapedFrom? pos t = .error f := by
  induction t generalizing pos with
  | nil => exact absurd (by simp [IsEscapable]) ht
  | cons c t ih =>
    have hrest (hc : c.IsSurrogate → (Utf8.escapedByte? c).isSome) :
        ∃ f, Utf8.encodeEscapedFrom? (pos + 1) t = .error f :=
      ih (fun h => ht (isEscapable_cons.mpr ⟨hc, h⟩)) (pos + 1)
    rw [Utf8.encodeEscapedFrom?]
    cases hb : Utf8.escapedByte? c with
    | some b =>
      obtain ⟨f, hf⟩ := hrest (fun _ => by rw [hb]; rfl)
      exact ⟨f, by simp only [hf]; rfl⟩
    | none =>
      by_cases hs : c.IsSurrogate
      · exact ⟨_, if_pos hs⟩
      · obtain ⟨f, hf⟩ := hrest (fun h => absurd h hs)
        exact ⟨f, by simp only [if_neg hs, hf]; rfl⟩

theorem encodeEscaped?_eq_ok_iff {t : Text} {b : Bytes} :
    t.encodeEscaped? = .ok b ↔ t.IsEscapable ∧ b = t.escapedBytes := by
  by_cases ht : t.IsEscapable
  · rw [encodeEscaped?, encodeEscapedFrom?_of_isEscapable ht, Except.ok.injEq]
    exact ⟨fun h => ⟨ht, h.symm⟩, fun h => h.2.symm⟩
  · obtain ⟨f, hf⟩ := encodeEscapedFrom?_of_not_isEscapable ht 0
    rw [encodeEscaped?, hf]
    exact ⟨(nomatch ·), fun h => absurd h.1 ht⟩

theorem escapedForm_of_not_isSurrogate {c : Code} (hc : ¬ c.IsSurrogate) :
    escapedForm c = c.utf8 := by
  have hb : Utf8.escapedByte? c = none := by
    unfold Code.IsSurrogate at hc
    rw [Utf8.escapedByte?, if_neg (by omega)]
  rw [escapedForm, hb]

theorem IsEncodable.encodeEscaped? {t : Text} (ht : t.IsEncodable) :
    t.encodeEscaped? = .ok t.bytes := by
  refine encodeEscaped?_eq_ok_iff.mpr ⟨fun c hc hs => absurd hs (ht c hc), ?_⟩
  rw [bytes, escapedBytes, List.flatMap, List.flatMap,
    List.map_congr_left fun c hc => escapedForm_of_not_isSurrogate (ht c hc)]

theorem escapedForm_ne_nil (c : Code) : escapedForm c ≠ [] := by
  unfold escapedForm
  cases Utf8.escapedByte? c with
  | some b => exact List.cons_ne_nil b []
  | none =>
    simp only [Code.utf8]
    split
    · simp
    · split
      · simp
      · split <;> simp

theorem toNat_of_escapedByte? {c : Code} {b : UInt8} (h : Utf8.escapedByte? c = some b) :
    0x80 ≤ b.toNat := by
  unfold Utf8.escapedByte? at h
  split at h
  · rw [Option.some.injEq] at h
    subst h
    rw [Utf8.toNat_toUInt8 (by omega)]
    omega
  · exact absurd h (by simp)

/-- Small bytes stand for themselves. -/
theorem escapedForm_eq_of_mem_of_lt {c : Code} {b : UInt8} (hb : b ∈ escapedForm c)
    (h : b.toNat < 0x80) : escapedForm c = [b] ∧ c.val = b.toNat := by
  unfold escapedForm at hb ⊢
  cases he : Utf8.escapedByte? c with
  | none =>
    rw [he] at hb
    exact Code.utf8_eq_of_mem_of_lt hb h
  | some a =>
    have ha := toNat_of_escapedByte? he
    rw [he, List.mem_singleton] at hb
    subst hb
    omega

theorem zero_mem_escapedBytes {t : Text} :
    0 ∈ t.escapedBytes ↔ ∃ c ∈ t, c.val = 0 := by
  rw [escapedBytes, List.mem_flatMap]
  constructor
  · rintro ⟨c, hc, hb⟩
    exact ⟨c, hc, (escapedForm_eq_of_mem_of_lt hb (by decide)).2⟩
  · rintro ⟨c, hc, h0⟩
    refine ⟨c, hc, ?_⟩
    rw [escapedForm_of_not_isSurrogate (by unfold Code.IsSurrogate; omega),
      Code.utf8_of_lt (by omega), h0]
    exact List.mem_singleton.mpr rfl

/-- Only two dots have the bytes of two dots. -/
theorem eq_dots_of_encodeEscaped? {t : Text} (h : t.encodeEscaped? = .ok [46, 46]) : t = ".." := by
  have hone (c : Code) (rest bs : Bytes) (hc : escapedForm c ++ rest = 46 :: bs) :
      c = '.' ∧ rest = bs := by
    cases hf : escapedForm c with
    | nil => exact absurd hf (escapedForm_ne_nil c)
    | cons b form =>
      rw [hf] at hc
      obtain ⟨rfl, hrest⟩ := List.cons.inj hc
      obtain ⟨hform, hval⟩ := escapedForm_eq_of_mem_of_lt
        (show (46 : UInt8) ∈ escapedForm c by rw [hf]; exact List.mem_cons_self) (by decide)
      rw [hf, List.cons.injEq] at hform
      rw [hform.2] at hrest
      refine ⟨?_, hrest⟩
      cases c
      simp only at hval
      subst hval
      rfl
  obtain ⟨-, hb⟩ := encodeEscaped?_eq_ok_iff.mp h
  cases t with
  | nil => exact absurd hb (by simp)
  | cons a t =>
    rw [escapedBytes_cons] at hb
    obtain ⟨rfl, h1⟩ := hone a _ _ hb.symm
    cases t with
    | nil => exact absurd h1 (by simp)
    | cons b t =>
      rw [escapedBytes_cons] at h1
      obtain ⟨rfl, h2⟩ := hone b _ _ h1
      cases t with
      | nil => rfl
      | cons c t =>
        rw [escapedBytes_cons, List.append_eq_nil_iff] at h2
        exact absurd h2.1 (escapedForm_ne_nil c)

end Text

namespace Utf8

/-! ## Characters that are read -/

theorem isTail_iff {b : UInt8} : isTail b = true ↔ 0x80 ≤ b.toNat ∧ b.toNat < 0xc0 := by
  simp [isTail, UInt8.le_iff_toNat_le, UInt8.lt_iff_toNat_lt]

theorem isLead_iff {b : UInt8} : isLead b = true ↔ 0xc2 ≤ b.toNat ∧ b.toNat < 0xf5 := by
  simp [isLead, UInt8.le_iff_toNat_le, UInt8.lt_iff_toNat_lt]

theorem width_eq (a : UInt8) :
    width a = if a.toNat < 0xe0 then 2 else if a.toNat < 0xf0 then 3 else 4 := by
  simp [width, UInt8.lt_iff_toNat_lt]

/-- What the second byte of a character may be. -/
theorem continues_singleton_iff {a b : UInt8} : continues [a] b = true ↔
    (0x80 ≤ b.toNat ∧ b.toNat < 0xc0) ∧ (a.toNat = 0xe0 → 0xa0 ≤ b.toNat) ∧
      (a.toNat = 0xed → b.toNat < 0xa0) ∧ (a.toNat = 0xf0 → 0x90 ≤ b.toNat) ∧
      (a.toNat = 0xf4 → b.toNat < 0x90) := by
  simp only [continues, Bool.and_eq_true, isTail_iff, Bool.or_eq_true, bne_iff_ne, ne_eq,
    decide_eq_true_eq, ← UInt8.toNat_inj, UInt8.le_iff_toNat_le, UInt8.lt_iff_toNat_lt,
    UInt8.reduceToNat]
  omega

theorem val_ofNat {n : Nat} (h : n < 0x110000) : (Code.ofNat n).val = n := by
  rw [Code.ofNat, dif_pos h]

theorem toUInt8_eq {n : Nat} {b : UInt8} (h : n = b.toNat) : n.toUInt8 = b := by
  rw [← UInt8.toNat_inj, toNat_toUInt8 (by have := b.toNat_lt; omega), h]

theorem utf8_assemble_two {a b : UInt8} (ha : 0xc2 ≤ a.toNat ∧ a.toNat < 0xe0)
    (hb : isTail b = true) :
    (assemble [a, b]).utf8 = [a, b] ∧ ¬ (assemble [a, b]).IsSurrogate := by
  rw [isTail_iff] at hb
  rw [assemble_two, Code.utf8, Code.IsSurrogate, val_ofNat (by omega)]
  rw [if_neg (by omega), if_pos (by omega)]
  refine ⟨?_, by omega⟩
  rw [toUInt8_eq (b := a) (by omega), toUInt8_eq (b := b) (by omega)]

theorem utf8_assemble_three {a b₁ b₂ : UInt8} (ha : 0xe0 ≤ a.toNat ∧ a.toNat < 0xf0)
    (h₁ : continues [a] b₁ = true) (h₂ : isTail b₂ = true) :
    (assemble [a, b₁, b₂]).utf8 = [a, b₁, b₂] ∧ ¬ (assemble [a, b₁, b₂]).IsSurrogate := by
  rw [continues_singleton_iff] at h₁
  rw [isTail_iff] at h₂
  rw [assemble_three, Code.utf8, Code.IsSurrogate, val_ofNat (by omega)]
  rw [if_neg (by omega), if_neg (by omega), if_pos (by omega)]
  refine ⟨?_, by omega⟩
  rw [toUInt8_eq (b := a) (by omega), toUInt8_eq (b := b₁) (by omega),
    toUInt8_eq (b := b₂) (by omega)]

theorem utf8_assemble_four {a b₁ b₂ b₃ : UInt8} (ha : 0xf0 ≤ a.toNat ∧ a.toNat < 0xf5)
    (h₁ : continues [a] b₁ = true) (h₂ : isTail b₂ = true) (h₃ : isTail b₃ = true) :
    (assemble [a, b₁, b₂, b₃]).utf8 = [a, b₁, b₂, b₃] ∧
      ¬ (assemble [a, b₁, b₂, b₃]).IsSurrogate := by
  rw [continues_singleton_iff] at h₁
  rw [isTail_iff] at h₂ h₃
  rw [assemble_four, Code.utf8, Code.IsSurrogate, val_ofNat (by omega)]
  rw [if_neg (by omega), if_neg (by omega), if_neg (by omega)]
  refine ⟨?_, by omega⟩
  rw [toUInt8_eq (b := a) (by omega), toUInt8_eq (b := b₁) (by omega),
    toUInt8_eq (b := b₂) (by omega), toUInt8_eq (b := b₃) (by omega)]

/-- The beginning of a character, or a whole one: a lead byte and bytes that may follow it. -/
structure Begins (a : UInt8) (tails : Bytes) : Prop where
  lead : isLead a = true
  follows : Follows [a] tails
  length_le : tails.length + 1 ≤ width a

theorem Follows.append_singleton {held tails : Bytes} {b : UInt8} (h : Follows held tails)
    (hb : continues (held ++ tails) b = true) : Follows held (tails ++ [b]) := by
  induction tails generalizing held with
  | nil => exact ⟨by rwa [List.append_nil] at hb, trivial⟩
  | cons c tails ih =>
    refine ⟨h.1, ih h.2 ?_⟩
    rwa [List.append_assoc, List.singleton_append]

theorem Begins.append_singleton {a b : UInt8} {tails : Bytes} (h : Begins a tails)
    (hb : continues (a :: tails) b = true) (hlen : tails.length + 1 < width a) :
    Begins a (tails ++ [b]) where
  lead := h.lead
  follows := h.follows.append_singleton hb
  length_le := by rwa [List.length_append]

/-- No byte of a character of several bytes is an ASCII byte. -/
theorem Begins.le_toNat {a b : UInt8} {tails : Bytes} (h : Begins a tails)
    (hb : b ∈ a :: tails) : 0x80 ≤ b.toNat := by
  have hfollows {held tails : Bytes} (h : Follows held tails) : ∀ b ∈ tails, isTail b = true := by
    induction tails generalizing held with
    | nil => exact fun _ hb => absurd hb List.not_mem_nil
    | cons c tails ih =>
      refine List.forall_mem_cons.mpr ⟨?_, ih h.2⟩
      exact (Bool.and_eq_true_iff.mp h.1).1
  rcases List.mem_cons.mp hb with rfl | hb
  · have := isLead_iff.mp h.lead
    omega
  · exact (isTail_iff.mp (hfollows h.follows b hb)).1

/-- **A whole character is what the code point it gives is written as.** -/
theorem Begins.utf8_assemble {a : UInt8} {tails : Bytes} (h : Begins a tails)
    (hlen : tails.length + 1 = width a) :
    (assemble (a :: tails)).utf8 = a :: tails ∧ ¬ (assemble (a :: tails)).IsSurrogate := by
  have hlead := isLead_iff.mp h.lead
  have hfollows := h.follows
  rw [width_eq] at hlen
  by_cases h2 : a.toNat < 0xe0
  · rw [if_pos h2] at hlen
    obtain ⟨b, rfl⟩ := List.length_eq_one_iff.mp (show tails.length = 1 by omega)
    exact utf8_assemble_two ⟨hlead.1, h2⟩ (Bool.and_eq_true_iff.mp hfollows.1).1
  by_cases h3 : a.toNat < 0xf0
  · rw [if_neg h2, if_pos h3] at hlen
    obtain ⟨b₁, b₂, rfl⟩ := List.length_eq_two.mp (show tails.length = 2 by omega)
    obtain ⟨h₁, h₂, -⟩ := hfollows
    rw [List.singleton_append, continues_cons_cons] at h₂
    exact utf8_assemble_three ⟨by omega, h3⟩ h₁ h₂
  · rw [if_neg h2, if_neg h3] at hlen
    obtain ⟨b₁, b₂, b₃, rfl⟩ := List.length_eq_three.mp (show tails.length = 3 by omega)
    obtain ⟨h₁, h₂, h₃, -⟩ := hfollows
    rw [List.singleton_append, continues_cons_cons] at h₂
    exact utf8_assemble_four ⟨by omega, hlead.2⟩ h₁ h₂
      ((continues_cons_cons _ _ _ _).symm.trans h₃)

/-! ## Reading and writing back -/

/-- The bytes of a piece. -/
def Piece.bytes : Piece → Bytes
  | .code c => c.utf8
  | .malformed span _ => span

/-- What a piece is read as. -/
def Piece.escaped : Piece → Text
  | .code c => [c]
  | .malformed span _ => span.map escapeByte

theorem decodeEscaped_eq (bytes : Bytes) :
    decodeEscaped bytes = (pieces bytes).flatMap Piece.escaped := by
  unfold decodeEscaped
  congr 1

/-- A piece of a text that is read: no surrogate, and no malformed ASCII byte. -/
def Piece.IsRead : Piece → Prop
  | .code c => ¬ c.IsSurrogate
  | .malformed span _ => ∀ b ∈ span, 0x80 ≤ b.toNat

/-- The pieces make up the bytes, and each is one that may be read. -/
def Reads (pieces : List Piece) (bytes : Bytes) : Prop :=
  pieces.flatMap Piece.bytes = bytes ∧ ∀ p ∈ pieces, p.IsRead

theorem Reads.cons {p : Piece} {pieces : List Piece} {bytes rest : Bytes}
    (h : Reads pieces rest) (hp : p.IsRead) (hbytes : p.bytes = bytes) :
    Reads (p :: pieces) (bytes ++ rest) :=
  ⟨by rw [List.flatMap_cons, hbytes, h.1], List.forall_mem_cons.mpr ⟨hp, h.2⟩⟩

/-- What a byte gives that no character waits for. -/
theorem reads_start {b : UInt8} {rest : Bytes} (ih : Reads (piecesAfter [] rest) rest)
    (hlead : isLead b = true → Reads (piecesAfter [b] rest) (b :: rest)) :
    Reads (if b < 0x80 then .code (.ofNat b.toNat) :: piecesAfter [] rest
      else if isLead b then piecesAfter [b] rest
      else .malformed [b] .badStart :: piecesAfter [] rest) (b :: rest) := by
  by_cases hascii : b < 0x80
  · rw [if_pos hascii]
    rw [UInt8.lt_iff_toNat_lt] at hascii
    have hlt : b.toNat < 0x80 := hascii
    change Reads (.code (.ofNat b.toNat) :: piecesAfter [] rest) ([b] ++ rest)
    refine ih.cons ?_ ?_
    · change ¬ (Code.ofNat b.toNat).IsSurrogate
      rw [Code.IsSurrogate, val_ofNat (by omega)]
      omega
    · change (Code.ofNat b.toNat).utf8 = [b]
      rw [Code.utf8_of_lt (by rw [val_ofNat (by omega)]; exact hlt), val_ofNat (by omega),
        toUInt8_eq rfl]
  · rw [if_neg hascii]
    split
    · exact hlead ‹_›
    · change Reads (.malformed [b] .badStart :: piecesAfter [] rest) ([b] ++ rest)
      refine ih.cons ?_ rfl
      intro c hc
      rw [List.mem_singleton.mp hc]
      rw [UInt8.lt_iff_toNat_lt] at hascii
      exact Nat.le_of_not_lt hascii

/-- **Reading loses nothing**: the induction is on the bytes that follow, with the beginning of a
character that has been seen. -/
theorem reads_piecesAfter (rest : Bytes) :
    Reads (piecesAfter [] rest) rest ∧
    ∀ a tails, Begins a tails → tails.length + 1 < width a →
      Reads (piecesAfter (a :: tails) rest) (a :: tails ++ rest) := by
  induction rest with
  | nil =>
    refine ⟨⟨rfl, fun _ hp => absurd hp List.not_mem_nil⟩, fun a tails h _ => ?_⟩
    have hnil : Reads [] [] := ⟨rfl, fun _ hp => absurd hp List.not_mem_nil⟩
    exact hnil.cons (p := .malformed (a :: tails) .truncated) (fun _ => h.le_toNat) rfl
  | cons b rest ih =>
    obtain ⟨hstart, hheld⟩ := ih
    have hlead (hb : isLead b = true) : Reads (piecesAfter [b] rest) (b :: rest) := by
      have hlen : 1 < width b := by
        rw [width_eq]
        split_ifs <;> decide
      exact hheld b [] ⟨hb, trivial, Nat.le_of_lt hlen⟩ hlen
    constructor
    · rw [piecesAfter, if_neg (by simp)]
      exact reads_start hstart hlead
    · intro a tails h hlen
      rw [piecesAfter]
      by_cases hb : continues (a :: tails) b = true
      · have hnext := h.append_singleton hb hlen
        have hsplit : a :: tails ++ b :: rest = (a :: (tails ++ [b])) ++ rest := by simp
        rw [if_pos (by simp [hb]), hsplit]
        by_cases hwhole : (tails ++ [b]).length + 1 = width a
        · obtain ⟨hutf8, hsurrogate⟩ := hnext.utf8_assemble hwhole
          refine (if_pos hwhole).symm ▸ ?_
          exact hstart.cons (p := .code _) hsurrogate hutf8
        · refine (if_neg hwhole).symm ▸ ?_
          exact hheld a _ hnext (Nat.lt_of_le_of_ne hnext.length_le hwhole)
      · rw [if_neg (by simp [hb])]
        exact (reads_start hstart hlead).cons (p := .malformed (a :: tails) .badContinuation)
          (fun _ => h.le_toNat) rfl

theorem escapedByte?_escapeByte {b : UInt8} (h : 0x80 ≤ b.toNat) :
    escapedByte? (escapeByte b) = some b := by
  have hlt := b.toNat_lt
  rw [escapedByte?, escapeByte, val_ofNat (by omega), if_pos (by omega), Nat.add_sub_cancel_left,
    toUInt8_eq rfl]

theorem Piece.IsRead.escapedBytes_escaped {p : Piece} (h : p.IsRead) :
    p.escaped.IsEscapable ∧ p.escaped.escapedBytes = p.bytes := by
  cases p with
  | code c =>
    refine ⟨fun d hd hs => ?_, ?_⟩
    · rw [List.mem_singleton.mp hd] at hs
      exact absurd hs h
    · rw [escaped, Text.escapedBytes_cons, Text.escapedForm_of_not_isSurrogate h]
      exact List.append_nil _
  | malformed span reason =>
    change ∀ b ∈ span, 0x80 ≤ b.toNat at h
    refine ⟨fun d hd _ => ?_, ?_⟩
    · obtain ⟨b, hb, rfl⟩ := List.mem_map.mp hd
      rw [escapedByte?_escapeByte (h b hb)]
      rfl
    · change Text.escapedBytes (span.map escapeByte) = span
      induction span with
      | nil => rfl
      | cons b span ih =>
        obtain ⟨hb, hspan⟩ := List.forall_mem_cons.mp h
        rw [List.map_cons, Text.escapedBytes_cons, ih hspan, Text.escapedForm,
          escapedByte?_escapeByte hb]
        rfl

/-- **What is read from bytes is written as these bytes again.** -/
theorem encodeEscaped?_decodeEscaped (bytes : Bytes) :
    (decodeEscaped bytes).encodeEscaped? = .ok bytes := by
  obtain ⟨hbytes, hread⟩ := (reads_piecesAfter bytes).1
  rw [Text.encodeEscaped?_eq_ok_iff, decodeEscaped_eq, pieces]
  generalize piecesAfter [] bytes = pieces at hbytes hread
  subst hbytes
  induction pieces with
  | nil => exact ⟨fun _ hc => absurd hc List.not_mem_nil, rfl⟩
  | cons p pieces ih =>
    obtain ⟨hp, hpieces⟩ := List.forall_mem_cons.mp hread
    obtain ⟨hescapable, hrest⟩ := ih hpieces
    obtain ⟨hfirst, hform⟩ := hp.escapedBytes_escaped
    rw [List.flatMap_cons, List.flatMap_cons, Text.escapedBytes_append, ← hrest]
    exact ⟨List.forall_mem_append.mpr ⟨hfirst, hescapable⟩, by rw [hform]⟩

end Utf8

end ThemeForge

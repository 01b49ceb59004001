import ThemeForge.Proofs.Json.Reader

/-!
# String literals

A text between quotes is one literal, whatever the text. It is written in one go, although two
rules meet in it: one for the syntax of literals, and one for surrogates, which could not be
encoded otherwise.

* `Text.length_joinPairs_le`, **`Text.joinPairs_eq_self_iff`**: what is lost by joining pairs;
* `Json.syntaxCode`, `Json.surrogateCode`, **`Json.escape_eq_flatMap`**: the two rules, one after
  the other;
* `Json.escape_injective`: different texts are written differently;
* **`quoted_decodes`**: the literal of a text, and what is read from it.
-/

namespace ThemeForge

/-! ## Pairs of surrogates -/

namespace Text

theorem length_joinPairs_le (t : Text) : (joinPairs t).length ≤ t.length := by
  fun_induction joinPairs t with
  | case1 a b t _ ih => exact Nat.succ_le_succ (Nat.le_succ_of_le ih)
  | case2 a b t _ ih => exact Nat.succ_le_succ ih
  | case3 t => exact Nat.le_refl _

/-- **Nothing is lost by joining exactly if there is no pair**: each pair makes the text
shorter. -/
theorem joinPairs_eq_self_iff {t : Text} :
    t.joinPairs = t ↔ t.IsChain fun a b => ¬ (a.IsHigh ∧ b.IsLow) := by
  refine ⟨fun h => ?_, joinPairs_eq_self⟩
  fun_induction joinPairs t with
  | case1 a b t _ ih =>
    -- two code points have become one, and nothing after them makes up for it
    have hle := length_joinPairs_le t
    have hlength := congrArg List.length h
    rw [List.length_cons, List.length_cons, List.length_cons] at hlength
    omega
  | case2 a b t hpair ih => exact List.isChain_cons_cons.mpr ⟨hpair, ih (List.cons.inj h).2⟩
  | case3 t hshort =>
    match t with
    | [] => exact .nil
    | [a] => exact .singleton a
    | a :: b :: t => exact (hshort a b t rfl).elim

end Text

namespace Json

/-! ## The two rules -/

/-- The letters of the control characters that have one. -/
def controlLetters : List (Code × Code) :=
  [('\n', 'n'), ('\r', 'r'), ('\t', 't'), ('\x0c', 'f'), ('\x08', 'b')]

/-- A code point as the syntax of literals has it: quotes, backslashes and control characters are
escaped. -/
def syntaxCode (c : Code) : Text :=
  if c = '"' ∨ c = '\\' then ['\\', c]
  else if c.val < 0x20 then
    match controlLetters.lookup c with
    | some e => ['\\', e]
    | none => numberEscape c
  else [c]

/-- A code point as the encoding has it: surrogates are escaped. -/
def surrogateCode (c : Code) : Text := if c.IsSurrogate then numberEscape c else [c]

theorem flatMap_surrogateCode_eq_self {t : Text} (h : t.IsEncodable) :
    t.flatMap surrogateCode = t := by
  calc
    t.flatMap surrogateCode = t.flatMap fun c => [c] :=
      List.flatMap_congr fun c hc => if_neg (h c hc)
    _ = t := List.flatMap_singleton' t

/-- Above the control characters, no letter stands for a code point. -/
theorem escapeCode_of_not_control {c : Code} (h : ¬ c.val < 0x20) :
    escapeCode c = if c = '"' ∨ c = '\\' then [Code.ofChar '\\', c]
      else if c.IsSurrogate then numberEscape c else [c] := by
  have hne : ∀ k : Code, k.val < 0x20 → c ≠ k := by
    rintro k hk rfl
    exact h hk
  rw [escapeCode, if_neg (hne '\n' (by decide)), if_neg (hne '\r' (by decide)),
    if_neg (hne '\t' (by decide)), if_neg (hne '\x0c' (by decide)),
    if_neg (hne '\x08' (by decide))]
  simp only [or_iff_right h]

theorem syntaxCode_of_not_isSurrogate {c : Code} (h : ¬ c.IsSurrogate) :
    syntaxCode c = escapeCode c := by
  have hcontrols : ∀ n (hn : n < 0x20), syntaxCode ⟨n, by omega⟩ = escapeCode ⟨n, by omega⟩ := by
    decide
  by_cases hcontrol : c.val < 0x20
  · exact hcontrols c.val hcontrol
  · rw [syntaxCode, escapeCode_of_not_control hcontrol, if_neg hcontrol, if_neg h]

theorem flatMap_surrogateCode_syntaxCode (c : Code) :
    (syntaxCode c).flatMap surrogateCode = escapeCode c := by
  by_cases h : c.IsSurrogate
  · have hquote : ¬ (c = '"' ∨ c = '\\') := by
      rintro (rfl | rfl) <;> exact absurd h (by decide)
    have hcontrol : ¬ c.val < 0x20 := by
      unfold Code.IsSurrogate at h
      omega
    rw [syntaxCode, if_neg hquote, if_neg hcontrol, List.flatMap_singleton, surrogateCode,
      escapeCode_of_not_control hcontrol, if_neg hquote]
  · rw [syntaxCode_of_not_isSurrogate h]
    exact flatMap_surrogateCode_eq_self (isEncodable_escapeCode c)

/-- **Writing in one go is the same as applying one rule after the other**: the second one finds
no surrogate in what the first has escaped, and its own escapes are left alone. -/
theorem escape_eq_flatMap (t : Text) :
    escape t = (t.flatMap syntaxCode).flatMap surrogateCode := by
  rw [List.flatMap_assoc]
  exact List.flatMap_congr fun c _ => (flatMap_surrogateCode_syntaxCode c).symm

/-! ## Reading a literal -/

/-- The code points of a body give back the text, so no two texts have the same body. -/
theorem escape_injective : Function.Injective escape := by
  intro s t h
  have hs := readCodes?_escape s []
  rw [h, readCodes?_escape t []] at hs
  cases hs
  rfl

theorem readValueWith?_blank (n : Nat) (t : Text) :
    readValueWith? (n + 1) (Code.ofChar ' ' :: t) = readValueWith? (n + 1) t := by
  rw [readValueWith?, readValueWith?, skipSpace_blank]

theorem parse?_quoted (t : Text) : parse? (quoted t) = some (.text t.joinPairs) := by
  have hread := reads_quoted t (quoted t).length []
  rw [List.append_nil, readValueWith?_blank] at hread
  rw [parse?, readValue?, hread]
  rfl

theorem isEncodable_quoted (t : Text) : (quoted t).IsEncodable :=
  Text.isEncodable_cons.mpr ⟨by decide, Text.isEncodable_append.mpr
    ⟨isEncodable_escape t, Text.isEncodable_cons.mpr ⟨by decide, Text.isEncodable_nil⟩⟩⟩

end Json

/-- **Every text has a literal.** It can be encoded and is read as one literal, whatever follows
it; what is read is the text with its surrogate pairs joined, which is the text itself exactly if
there is no such pair. Different texts are written differently. -/
theorem quoted_decodes (t : Text) :
    (Json.quoted t).IsEncodable ∧
    (∀ rest, Json.readLiteral? (Json.quoted t ++ rest) = some (t.joinPairs, rest)) ∧
    Json.parse? (Json.quoted t) = some (.text t.joinPairs) ∧
    (Json.parse? (Json.quoted t) = some (.text t) ↔
      t.IsChain fun a b => ¬ (a.IsHigh ∧ b.IsLow)) ∧
    ∀ s, Json.escape s = Json.escape t → s = t := by
  have hparse := Json.parse?_quoted t
  refine ⟨Json.isEncodable_quoted t, Json.readLiteral?_quoted t, hparse, ?_,
    fun s h => Json.escape_injective h⟩
  rw [hparse, Option.some.injEq, Value.text.injEq]
  exact Text.joinPairs_eq_self_iff

/-- A half of a pair next to its own escape, which is meant literally. -/
example : Json.escape (Code.ofNat 0xd83d :: "\\ude00\"") = "\\ud83d\\\\ude00\\\"" := by decide

end ThemeForge

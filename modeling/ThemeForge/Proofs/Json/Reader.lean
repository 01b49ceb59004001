import ThemeForge.Json.Reader
import ThemeForge.Proofs.Json.StringBody
import ThemeForge.Proofs.Value.Mapping
import ThemeForge.Theme.Generator

/-!
# Reading written JSON

* `Json.Reads`: a text that is read as a value, whatever follows it;
* `Json.quoted`, `Json.reads_quoted`: string literals;
* `Json.Member`, `Json.membersText`, `Json.readEntriesWith?_membersText`: the members of an object,
  on lines of their own;
* **`Json.parse?_object`**: an object written member by member.
-/

namespace ThemeForge

theorem Text.after?_append (p t : Text) : Text.after? p (p ++ t) = some t := by
  induction p with
  | nil => rfl
  | cons a p ih => rw [List.cons_append, after?, if_pos rfl, ih]

namespace Json

/-! ## White space -/

theorem skipSpace_append {ws : Text} (h : ∀ c ∈ ws, isSpace c = true) (t : Text) :
    skipSpace (ws ++ t) = skipSpace t := List.dropWhile_append_of_pos h

theorem skipSpace_cons {c : Code} (h : ¬ isSpace c = true) (t : Text) :
    skipSpace (c :: t) = c :: t := List.dropWhile_cons_of_neg h

/-! ## Values -/

/-- After a blank, the text is read as the value, whatever follows it. -/
def Reads (t : Text) (v : Value) : Prop :=
  ∀ n rest, readValueWith? (n + 1) (Code.ofChar ' ' :: (t ++ rest)) = some (v, rest)

theorem skipSpace_blank (t : Text) : skipSpace (Code.ofChar ' ' :: t) = skipSpace t := rfl

/-- A string literal. -/
def quoted (t : Text) : Text := Code.ofChar '"' :: (escape t ++ [Code.ofChar '"'])

theorem readBody?_quoted (t rest : Text) :
    readBody? (escape t ++ [Code.ofChar '"'] ++ rest) = some (t.joinPairs, rest) := by
  rw [List.append_assoc]
  exact readBody?_escape t rest

theorem reads_quoted (t : Text) : Reads (quoted t) (.text t.joinPairs) := by
  intro n rest
  rw [readValueWith?, skipSpace_blank, quoted, List.cons_append, skipSpace_cons (by decide)]
  simp only [if_true, readBody?_quoted]
  rfl

theorem readLiteral?_quoted (t rest : Text) :
    readLiteral? (quoted t ++ rest) = some (t.joinPairs, rest) := by
  rw [quoted, List.cons_append, readLiteral?, if_pos rfl, readBody?_quoted]

theorem reads_true : Reads "true" (.bool true) := by
  intro n rest
  have hcons : ("true" : Text) = Code.ofChar 't' :: "rue" := rfl
  rw [readValueWith?, skipSpace_blank, hcons, List.cons_append, skipSpace_cons (by decide)]
  simp +decide only [↓reduceIte]
  rw [← List.cons_append, ← hcons, readWord?, Text.after?_append]
  rfl

theorem reads_false : Reads "false" (.bool false) := by
  intro n rest
  have hcons : ("false" : Text) = Code.ofChar 'f' :: "alse" := rfl
  rw [readValueWith?, skipSpace_blank, hcons, List.cons_append, skipSpace_cons (by decide)]
  simp +decide only [↓reduceIte]
  rw [← List.cons_append, ← hcons, readWord?, Text.after?_append]
  rfl

theorem reads_flagWord (b : Bool) : Reads (Theme.flagWord b) (.bool b) := by
  cases b with
  | false => exact reads_false
  | true => exact reads_true

/-- An object without members, with any white space in it. -/
theorem reads_empty {ws : Text} (hws : ∀ c ∈ ws, isSpace c = true) :
    Reads (Code.ofChar '\x7b' :: (ws ++ [Code.ofChar '\x7d'])) (.mapping []) := by
  intro n rest
  rw [readValueWith?, skipSpace_blank, List.cons_append, skipSpace_cons (by decide)]
  simp +decide only [↓reduceIte]
  rw [List.append_assoc, skipSpace_append hws, List.singleton_append, skipSpace_cons (by decide)]
  simp only [↓reduceIte]

/-! ## Objects -/

/-- A member of an object: its key, which holds no surrogate pair, and its value as it is written
and as it is read. -/
structure Member where
  key : Text
  written : Text
  value : Value
  key_plain : key.joinPairs = key
  reads : Reads written value

/-- A member on a line of its own. -/
def Member.text (e : Member) : Text :=
  ("\n  " : Text) ++ (quoted e.key ++ (Code.ofChar ':' :: Code.ofChar ' ' :: e.written))

/-- Members separated by commas. -/
def membersText : List Member → Text
  | [] => []
  | [e] => e.text
  | e :: f :: es => e.text ++ (Code.ofChar ',' :: membersText (f :: es))

/-- The entries that members add. -/
def entries (m : Value.Mapping) (es : List Member) : Value.Mapping :=
  es.foldl (fun m e => m.put (.text e.key) e.value) m

theorem readLiteral?_member (e : Member) (rest : Text) :
    readLiteral? (skipSpace (e.text ++ rest)) =
      some (e.key, Code.ofChar ':' :: Code.ofChar ' ' :: (e.written ++ rest)) := by
  rw [Member.text, List.append_assoc, skipSpace_append (by decide), List.append_assoc, quoted,
    List.cons_append, skipSpace_cons (by decide), ← List.cons_append, ← quoted,
    readLiteral?_quoted, e.key_plain]
  rfl

section Member

variable (n : Nat) (m : Value.Mapping) (e : Member) {rest rest' : Text}

/-- Another member follows. -/
theorem readEntriesWith?_member_comma (h : skipSpace rest = Code.ofChar ',' :: rest') :
    readEntriesWith? (n + 2) m (e.text ++ rest) =
      readEntriesWith? (n + 1) (m.put (.text e.key) e.value) rest' := by
  rw [readEntriesWith?, readLiteral?_member]
  simp only [Option.bind_eq_bind, Option.bind_some, skipSpace_cons (show ¬ isSpace ':' = true by
    decide), ↓reduceIte, e.reads n rest, h]

/-- The member is the last one. -/
theorem readEntriesWith?_member_brace (h : skipSpace rest = Code.ofChar '\x7d' :: rest') :
    readEntriesWith? (n + 2) m (e.text ++ rest) =
      some (m.put (.text e.key) e.value, rest') := by
  rw [readEntriesWith?, readLiteral?_member]
  simp only [Option.bind_eq_bind, Option.bind_some, skipSpace_cons (show ¬ isSpace ':' = true by
    decide), ↓reduceIte, e.reads n rest, h,
    if_neg (show ¬ Code.ofChar '\x7d' = Code.ofChar ',' by decide)]

end Member

theorem readEntriesWith?_membersText {es : List Member} (hes : es ≠ []) (n : Nat)
    (m : Value.Mapping) (rest : Text) :
    readEntriesWith? (n + es.length + 1) m
      (membersText es ++ (Code.ofChar '\n' :: Code.ofChar '\x7d' :: rest)) =
      some (entries m es, rest) := by
  induction es generalizing m with
  | nil => exact absurd rfl hes
  | cons e es ih =>
    cases es with
    | nil =>
      have hbrace : skipSpace (Code.ofChar '\n' :: Code.ofChar '\x7d' :: rest) =
          Code.ofChar '\x7d' :: rest := rfl
      rw [membersText, List.length_singleton, readEntriesWith?_member_brace n m e hbrace]
      rfl
    | cons f es =>
      have hcomma := skipSpace_cons (show ¬ isSpace (Code.ofChar ',') = true by decide)
        (membersText (f :: es) ++ Code.ofChar '\n' :: Code.ofChar '\x7d' :: rest)
      rw [membersText, List.append_assoc, List.length_cons, ← Nat.add_assoc, List.cons_append,
        readEntriesWith?_member_comma _ m e hcomma]
      exact ih (List.cons_ne_nil f es) _

theorem length_le_length_membersText (es : List Member) :
    es.length ≤ (membersText es).length := by
  induction es with
  | nil => exact Nat.le_refl 0
  | cons e es ih =>
    have htext : 1 ≤ e.text.length := by
      rw [Member.text, List.length_append]
      exact Nat.le_trans (by decide) (Nat.le_add_right _ _)
    cases es with
    | nil => exact htext
    | cons f es =>
      rw [membersText, List.length_append, List.length_cons]
      simp only [List.length_cons] at ih ⊢
      omega

theorem exists_skipSpace_membersText {es : List Member} (hes : es ≠ []) (rest : Text) :
    ∃ tail, skipSpace (membersText es ++ rest) = Code.ofChar '"' :: tail := by
  have hmember (e : Member) (rest : Text) :
      ∃ tail, skipSpace (e.text ++ rest) = Code.ofChar '"' :: tail := by
    rw [Member.text, List.append_assoc, skipSpace_append (by decide), quoted, List.cons_append,
      List.cons_append, skipSpace_cons (by decide)]
    exact ⟨_, rfl⟩
  rcases es with _ | ⟨e, _ | ⟨f, es⟩⟩
  · exact absurd rfl hes
  · exact hmember e rest
  · rw [membersText, List.append_assoc]
    exact hmember e _

theorem skipSpace_skipSpace (t : Text) : skipSpace (skipSpace t) = skipSpace t := by
  induction t with
  | nil => rfl
  | cons c t ih =>
    by_cases hc : isSpace c = true
    · rw [show skipSpace (c :: t) = skipSpace t from List.dropWhile_cons_of_pos hc, ih]
    · rw [skipSpace_cons hc, skipSpace_cons hc]

theorem readEntriesWith?_skipSpace (n : Nat) (m : Value.Mapping) (t : Text) :
    readEntriesWith? n m (skipSpace t) = readEntriesWith? n m t := by
  cases n with
  | zero => rfl
  | succ n => rw [readEntriesWith?, readEntriesWith?, skipSpace_skipSpace]

/-- **An object that is written member by member is read as its entries.** -/
theorem parse?_object {es : List Member} (hes : es ≠ []) :
    parse? (Code.ofChar '\x7b' :: (membersText es ++
      [Code.ofChar '\n', Code.ofChar '\x7d', Code.ofChar '\n'])) =
      some (.mapping (entries [] es)) := by
  have hfuel := length_le_length_membersText es
  obtain ⟨n, hn⟩ : ∃ n, (membersText es).length + 4 = n + es.length + 1 :=
    ⟨(membersText es).length + 3 - es.length, by omega⟩
  obtain ⟨tail, htail⟩ := exists_skipSpace_membersText hes
    [Code.ofChar '\n', Code.ofChar '\x7d', Code.ofChar '\n']
  have hentries := readEntriesWith?_membersText hes n [] [Code.ofChar '\n']
  rw [← readEntriesWith?_skipSpace, htail] at hentries
  rw [parse?, readValue?, List.length_cons, List.length_append, List.length_cons,
    List.length_cons, List.length_singleton, hn, readValueWith?, skipSpace_cons (by decide)]
  simp +decide only [↓reduceIte, htail, hentries, Option.bind_eq_bind, Option.bind_some]
  rfl

end Json

end ThemeForge

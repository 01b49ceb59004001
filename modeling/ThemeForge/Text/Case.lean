import ThemeForge.Text.Code
import ThemeForge.Text.CaseTable

/-!
# Letter case

Full Unicode case mapping: a code point may become several (`ß` is `SS` in upper case), and a
capital sigma at the end of a word becomes the final small sigma.

* `Text.upper`, `Text.lower`, `Text.capitalize`: the mappings of a text;
* `Code.upper`: the upper case of one code point, on which context has no influence.
-/

namespace ThemeForge

open CaseTable

/-- Whether some range of the table holds `n`. -/
def inRanges (table : List (Nat × Nat)) (n : Nat) : Bool :=
  table.any fun r => r.1 ≤ n && n ≤ r.2

/-- The image of `n` under the run that holds it, `n` itself when none does. -/
def CaseTable.shiftBy (runs : List CaseRun) (n : Nat) : Nat :=
  match runs.find? fun r => r.first ≤ n && n ≤ r.last && (n - r.first) % r.step == 0 with
  | some r => (n + r.shift).toNat
  | none => n

namespace Code

/-- The upper case of a code point. -/
def upper (c : Code) : Text :=
  if c.val < 0x80 then [if 97 ≤ c.val ∧ c.val ≤ 122 then ofNat (c.val - 32) else c]
  else
    match upperSpecial.lookup c.val with
    | some image => image.map ofNat
    | none => [ofNat (shiftBy upperRuns c.val)]

/-- The title case of a code point. -/
def title (c : Code) : Text :=
  match titleSpecial.lookup c.val with
  | some image => image.map ofNat
  | none => c.upper

/-- The lower case of a code point outside any context. -/
def lower (c : Code) : Text :=
  if c.val < 0x80 then [if 65 ≤ c.val ∧ c.val ≤ 90 then ofNat (c.val + 32) else c]
  else
    match lowerSpecial.lookup c.val with
    | some image => image.map ofNat
    | none => [ofNat (shiftBy lowerRuns c.val)]

/-- A letter with case that does not yield to its neighbours. -/
def isCased (c : Code) : Bool := inRanges cased c.val

/-- A code point passed over in the search for a neighbouring letter. -/
def isCaseIgnorable (c : Code) : Bool := inRanges caseIgnorable c.val

/-- U+03A3, whose lower case depends on its neighbours. -/
def isSigma (c : Code) : Bool := c.val == 0x3a3

end Code

namespace Text

/-- The upper case of a text. -/
def upper (t : Text) : Text := t.flatMap Code.upper

/-- Whether the nearest code point that is not passed over is a letter with case. -/
def meetsCased (t : Text) : Bool :=
  match t.dropWhile Code.isCaseIgnorable with
  | c :: _ => c.isCased
  | [] => false

/-- The lower case of a text whose predecessor, read backwards, is `seen`. -/
def lowerAfter (seen : Text) : Text → Text
  | [] => []
  | c :: rest =>
    let image :=
      if c.isSigma then
        [Code.ofNat (if meetsCased seen && !meetsCased rest then 0x3c2 else 0x3c3)]
      else c.lower
    image ++ lowerAfter (c :: seen) rest

/-- The lower case of a text. -/
def lower (t : Text) : Text := lowerAfter [] t

/-- Title case for the first code point, lower case for the others. -/
def capitalize : Text → Text
  | [] => []
  | c :: rest => c.title ++ lowerAfter [c] rest

end Text

end ThemeForge

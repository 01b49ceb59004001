import ThemeForge.Text.Code

/-!
# Code points that file names may hold

A code point is illegal in a file name when some file system refuses it: path separators, the
punctuation that device paths reserve, control characters, and surrogates, which no file name can
encode.

* `Code.IsIllegal`: the class;
* `FileName.IsLegal`: texts without a member of it.
-/

namespace ThemeForge

/-- The punctuation that file names may not hold. -/
def FileName.illegalPunctuation : Text := "/\\:*?\"<>|"

/-- Illegal in a file name. -/
def Code.IsIllegal (c : Code) : Prop :=
  c ∈ FileName.illegalPunctuation ∨ c.val ≤ 0x1f ∨ (0x7f ≤ c.val ∧ c.val ≤ 0x9f) ∨ c.IsSurrogate

instance (c : Code) : Decidable c.IsIllegal := inferInstanceAs (Decidable (_ ∨ _))

/-- Without illegal code points. -/
def FileName.IsLegal (t : Text) : Prop := ∀ c ∈ t, ¬ c.IsIllegal

instance (t : Text) : Decidable (FileName.IsLegal t) := by
  unfold FileName.IsLegal; infer_instance

end ThemeForge

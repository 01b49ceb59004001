import ThemeForge.Text.Case
import ThemeForge.Text.IdentifierTable

/-!
# Names

The Unicode rule for names: a letter or underscore, then letters, digits, marks and connectors.
Words are a little wider: they also hold numerals such as superscripts, which no name does.
-/

namespace ThemeForge

open IdentifierTable

namespace Code

/-- May start a name. -/
def startsName (c : Code) : Bool :=
  if c.val < 0x80 then c.isLetter || c.val == 95 else inRanges starts c.val

/-- May stand in a name after its start. -/
def continuesName (c : Code) : Bool :=
  if c.val < 0x80 then c.isLetter || c.isDigit || c.val == 95
  else inRanges starts c.val || inRanges continues c.val

/-- A code point of a word. -/
def isWord (c : Code) : Bool :=
  c.continuesName || (0x80 ≤ c.val && inRanges wordOnly c.val)

end Code

/-- Whether a text is a name. -/
def Text.isName : Text → Bool
  | [] => false
  | c :: rest => c.startsName && rest.all Code.continuesName

end ThemeForge

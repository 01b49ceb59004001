import ThemeForge.Text.Case
import ThemeForge.Text.WidthTable

/-!
# Cell width

How many cells of a terminal a text takes: none for control characters and combining marks, two
for wide characters, one for the rest.
-/

namespace ThemeForge

/-- The number of terminal cells of a code point. -/
def Code.cells (c : Code) : Nat :=
  if c.val < 0x80 then (if c.val < 0x20 ∨ c.val = 0x7f then 0 else 1)
  else if c.val < 0xa0 then 0
  else if inRanges WidthTable.zero c.val then 0
  else if inRanges WidthTable.double c.val then 2
  else 1

/-- The number of terminal cells of a text. -/
def Text.cells (t : Text) : Nat := t.foldr (fun c n => c.cells + n) 0

end ThemeForge

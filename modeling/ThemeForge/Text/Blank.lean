import ThemeForge.Text.Code

/-!
# Blanks

Two notions of white space meet in this library. `Code.isBlank` is the wide one, by which names
are trimmed and runs of blanks collapse: the Unicode white space together with the four
information separators. `Code.isWhiteSpace` is the Unicode property alone, by which numerals are
trimmed.

* `Text.trim`, `Text.trimStart`, `Text.trimEnd`: cut blanks at the ends;
* `Text.collapse`: every run of blanks becomes one space.
-/

namespace ThemeForge

/-- The Unicode property `White_Space`. -/
def Code.isWhiteSpace (c : Code) : Bool :=
  (9 ≤ c.val && c.val ≤ 13) || c.val == 0x20 || c.val == 0x85 || c.val == 0xa0
    || c.val == 0x1680 || (0x2000 ≤ c.val && c.val ≤ 0x200a) || c.val == 0x2028
    || c.val == 0x2029 || c.val == 0x202f || c.val == 0x205f || c.val == 0x3000

/-- White space or one of the information separators U+001C to U+001F. -/
def Code.isBlank (c : Code) : Bool := c.isWhiteSpace || (0x1c ≤ c.val && c.val ≤ 0x1f)

namespace Text

/-- Drops the code points in `p` at the start. -/
def trimStartOf (p : Code → Bool) (t : Text) : Text := t.dropWhile p

/-- Drops the code points in `p` at the end. -/
def trimEndOf (p : Code → Bool) (t : Text) : Text := (t.reverse.dropWhile p).reverse

/-- Drops the code points in `p` at both ends. -/
def trimOf (p : Code → Bool) (t : Text) : Text := trimEndOf p (trimStartOf p t)

/-- Drops the blanks at the start. -/
def trimStart : Text → Text := trimStartOf Code.isBlank

/-- Drops the blanks at the end. -/
def trimEnd : Text → Text := trimEndOf Code.isBlank

/-- Drops the blanks at both ends. -/
def trim : Text → Text := trimOf Code.isBlank

/-- Writes each run of blanks as one space; `inRun` says that the code point before was blank. -/
def collapseFrom (inRun : Bool) : Text → Text
  | [] => []
  | c :: rest =>
    if c.isBlank then
      if inRun then collapseFrom true rest else ' ' :: collapseFrom true rest
    else c :: collapseFrom false rest

/-- Writes each run of blanks as one space. -/
def collapse : Text → Text := collapseFrom false

/-- The maximal runs of code points that are not blank. -/
def words (t : Text) : List Text := ((collapse t).splitOn ' ').filter (· ≠ [])

end Text

end ThemeForge

import ThemeForge.Text.Case
import ThemeForge.Text.PrintableTable

/-!
# Quoted text

The quoted form of a text in messages. Single quotes enclose it unless the text holds a single
quote and no double quote; backslashes and the enclosing quote are escaped; what cannot be printed
is written by its number in two, four or eight hexadecimal digits.

* `Text.quote`: the quoted form;
* `Code.isPrintable`: the code points that stand for themselves.
-/

namespace ThemeForge

/-- A code point that may stand for itself in a quoted text. -/
def Code.isPrintable (c : Code) : Bool :=
  if c.val < 0x80 then 0x20 ≤ c.val && c.val < 0x7f else inRanges PrintableTable.printable c.val

/-- A code point by its number: `\xXX`, `\uXXXX` or `\UXXXXXXXX`. -/
def Code.numbered (c : Code) : Text :=
  if c.val < 0x100 then "\\x" ++ Text.hex 2 c.val
  else if c.val < 0x10000 then "\\u" ++ Text.hex 4 c.val
  else "\\U" ++ Text.hex 8 c.val

/-- A code point inside quotes of the kind `q`. -/
def Code.quoted (q c : Code) : Text :=
  if c = q ∨ c = '\\' then ['\\', c]
  else if c = '\n' then "\\n"
  else if c = '\r' then "\\r"
  else if c = '\t' then "\\t"
  else if c.isPrintable then [c]
  else c.numbered

namespace Text

/-- The kind of quote that encloses a text. -/
def quoteMark (t : Text) : Code :=
  if t.contains (Code.ofChar '\'') && !t.contains (Code.ofChar '"') then '"' else '\''

/-- The text in quotes. -/
def quote (t : Text) : Text :=
  let q := quoteMark t
  q :: t.flatMap (Code.quoted q) ++ [q]

end Text

end ThemeForge

import ThemeForge.FileName.Device
import ThemeForge.FileName.Replacement
import ThemeForge.Text.Utf8

/-!
# File-name stems

The stem of a theme file is the theme's name made safe: illegal code points replaced, runs of
blanks collapsed, spaces and dots trimmed at the ends, device names marked, and the whole cut so
that the file name fits into one path component.

* `FileName.truncate?`: the longest part of a text that fits into a number of bytes;
* `FileName.stem?`: the stem for a name;
* `FileName.ofName?`: the file name, which ends in `.theme.json`.
-/

namespace ThemeForge.FileName

/-- The ending of every theme file. -/
def extension : Text := ".theme.json"

/-- The stem of a name of which nothing is left. -/
def fallback : Text := "theme"

/-- The most bytes of one path component. -/
def maxBytes : Nat := 255

/-- Spaces and dots do not stand at the ends of a stem. -/
def isEdge (c : Code) : Bool := c == ' ' || c == '.'

/-- Cuts a text to at most `limit` bytes. A character that the cut would split is dropped. -/
def truncate? (t : Text) (limit : Nat) : Except Utf8.EncodeFault Text := do
  let bytes ← t.encode?
  return if bytes.length ≤ limit then t else Utf8.decodeLossy (bytes.take limit)

/-- The name without illegal code points, needless blanks and spaces or dots at its ends. -/
def cleaned (r : Replacement) (raw : Text) : Text :=
  Text.trimOf isEdge (r.apply raw).collapse

/-- The fallback takes the place of an empty stem. -/
def orFallback (t : Text) : Text := if t = [] then fallback else t

/-- An underscore marks a stem that would mean a device. -/
def guarded (t : Text) : Text := if IsReserved t then '_' :: t else t

/-- The stem for a name. -/
def stem? (r : Replacement) (raw : Text) : Except Utf8.EncodeFault Text := do
  let cut ← truncate? (guarded (orFallback (cleaned r raw))) (maxBytes - extension.length)
  return Text.trimEndOf isEdge cut

/-- Why a name has no stem. -/
inductive Fault
  | replacement (f : Replacement.Fault)
  | encoding (f : Utf8.EncodeFault)
deriving DecidableEq, Repr

/-- The stem for a name, the replacement being given in its written form. -/
def sanitize? (raw written : Text) : Except Fault Text := do
  let r ← (Replacement.parse? written).mapError .replacement
  (stem? r raw).mapError .encoding

/-- The file name for a name. -/
def ofName? (raw written : Text) : Except Fault Text := do
  return (← sanitize? raw written) ++ extension

end ThemeForge.FileName

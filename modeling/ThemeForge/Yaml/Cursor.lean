import ThemeForge.Text.Code

/-!
# Reading positions in YAML

A cursor is what is left of a document together with the place reached: the number of code points
passed, and the line and column, by which YAML decides on structure.

* `Cursor.peek`, `Cursor.advance`: looking ahead and moving on;
* `Cursor.takeBreak`: passing a line break, which is normalised;
* classes of code points: breaks, blanks and the end of the text.
-/

namespace ThemeForge.Yaml

/-- What is left to read, and the place reached. -/
structure Cursor where
  rest : Text
  index : Nat := 0
  line : Nat := 0
  column : Nat := 0
deriving Repr

/-- A line break. -/
def isBreak (c : Code) : Bool :=
  c == '\n' || c == '\r' || c.val == 0x85 || c.val == 0x2028 || c.val == 0x2029

/-- A break, or the end of the text. -/
def atBreak : Option Code → Bool
  | none => true
  | some c => isBreak c

/-- A space, a break, or the end of the text. -/
def atSpace : Option Code → Bool
  | none => true
  | some c => c == ' ' || isBreak c

/-- A space, a tab, a break, or the end of the text. -/
def atBlank : Option Code → Bool
  | none => true
  | some c => c == ' ' || c == '\t' || isBreak c

/-- One of the code points of a set. -/
def isOneOf (set : Text) : Option Code → Bool
  | none => false
  | some c => set.contains c

/-- A letter, digit, hyphen or underscore. -/
def isNameCode (c : Code) : Bool := c.isLetter || c.isDigit || c == '-' || c == '_'

namespace Cursor

/-- The code point `n` places ahead. -/
def peek (c : Cursor) (n : Nat) : Option Code := c.rest[n]?

/-- The next code point. -/
def head (c : Cursor) : Option Code := c.rest.head?

/-- Whether the next code point is `x`. -/
def sees (c : Cursor) (x : Code) : Bool := c.head == some x

/-- Passes one code point. A carriage return before a line feed does not end a line yet. -/
def next (c : Cursor) : Cursor :=
  match c.rest with
  | [] => c
  | a :: rest =>
    let index := c.index + 1
    if isBreak a && !(a == '\r' && rest.head? == some (Code.ofChar '\n')) then
      ⟨rest, index, c.line + 1, 0⟩
    else if a.val = 0xfeff then ⟨rest, index, c.line, c.column⟩
    else ⟨rest, index, c.line, c.column + 1⟩

/-- Passes `n` code points. -/
def advance (c : Cursor) : Nat → Cursor
  | 0 => c
  | n + 1 => c.next.advance n

/-- Passes the code points in `p`. -/
def skipWhile (p : Code → Bool) (c : Cursor) : Cursor := c.advance (c.rest.takeWhile p).length

/-- The code points in `p`, and the cursor after them. -/
def takeWhile (p : Code → Bool) (c : Cursor) : Text × Cursor :=
  let t := c.rest.takeWhile p
  (t, c.advance t.length)

/-- Passes spaces. -/
def skipSpaces (c : Cursor) : Cursor := c.skipWhile (· == ' ')

/-- Passes a comment, if there is one. -/
def skipComment (c : Cursor) : Cursor :=
  if c.sees '#' then c.skipWhile fun x => !isBreak x else c

/-- Passes a line break, if there is one: the break in its normal form, and what follows. -/
def takeBreak (c : Cursor) : Text × Cursor :=
  match c.rest with
  | a :: b :: _ =>
    if a = '\r' ∧ b = '\n' then ("\n", c.advance 2)
    else if a.val = 0x2028 ∨ a.val = 0x2029 then ([a], c.next)
    else if isBreak a then ("\n", c.next)
    else ([], c)
  | [a] =>
    if a.val = 0x2028 ∨ a.val = 0x2029 then ([a], c.next)
    else if isBreak a then ("\n", c.next)
    else ([], c)
  | [] => ([], c)

/-- Whether a marker of three code points stands here by itself. -/
def seesMarker (c : Cursor) (marker : Text) : Bool :=
  c.rest.startsWith marker && atBlank (c.peek 3)

/-- Whether a document marker stands here. -/
def seesDocumentMarker (c : Cursor) : Bool := c.seesMarker "---" || c.seesMarker "..."

end Cursor

end ThemeForge.Yaml

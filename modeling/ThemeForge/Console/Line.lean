import ThemeForge.Text.Width

/-!
# Lines for people

Text that is shown in lines on a terminal: codes that would move the cursor are left out, and tabs
become spaces up to the next multiple of eight cells. In marked-up text, words in square brackets
set a style and are not shown. Codes for pictures, colours and the width of the terminal, at which
lines are broken, are left out.

* `Text.shown`: a text as a terminal shows it;
* `Text.pieces`: the texts and marks of a marked-up text;
* `Text.unmarked`, `Text.literal`: the text without its marks, and with the marks as text.
-/

namespace ThemeForge

/-- Bell, backspace, vertical tab, form feed and carriage return. -/
def Code.movesCursor (c : Code) : Bool :=
  c.val == 7 || c.val == 8 || c.val == 11 || c.val == 12 || c.val == 13

namespace Text

/-- The distance of tab stops. -/
def tabWidth : Nat := 8

/-- Tabs as spaces, for a text that starts at a cell of its line. -/
def expandTabsFrom (cell : Nat) : Text → Text
  | [] => []
  | c :: rest =>
    if c = '\t' then
      let n := tabWidth - cell % tabWidth
      List.replicate n (Code.ofChar ' ') ++ expandTabsFrom (cell + n) rest
    else if c = '\n' then c :: expandTabsFrom 0 rest
    else c :: expandTabsFrom (cell + c.cells) rest

/-- A text as a terminal shows it. -/
def shown (t : Text) : Text := expandTabsFrom 0 (t.filter fun c => !c.movesCursor)

/-- A code point that can start a mark after its bracket. -/
def startsMark (c : Code) : Bool :=
  (97 ≤ c.val && c.val ≤ 122) || c == '#' || c == '/' || c == '@'

/-- What stands in a mark after its opening bracket, and what follows the mark. -/
def mark? : Text → Option (Text × Text)
  | [] => none
  | c :: rest =>
    if startsMark c then
      let (body, after) := rest.span fun d => d != Code.ofChar ']' && d != Code.ofChar '['
      match after with
      | d :: after => if d = ']' then some (c :: body, after) else none
      | [] => none
    else none

/-- A piece of marked-up text: text, or a mark with the number of backslashes in front of it. -/
inductive Piece
  | plain (t : Text)
  | mark (backslashes : Nat) (body : Text)
deriving DecidableEq, Repr

/-- The pieces of a marked-up text; the fuel bounds its length. In text, a backslash in front of a
bracket is not shown. -/
def piecesFrom : Nat → Text → List Piece
  | 0, _ => []
  | _, [] => []
  | n + 1, c :: rest =>
    let (bars, after) := (c :: rest).span fun d => d == Code.ofChar '\\'
    match after with
    | [] => [.plain bars]
    | d :: after =>
      if d = '[' then
        match mark? after with
        | some (body, after) => .mark bars.length body :: piecesFrom n after
        | none => .plain (bars.drop 1 ++ [d]) :: piecesFrom n after
      else .plain (bars ++ [d]) :: piecesFrom n after

/-- The pieces of a marked-up text. -/
def pieces (t : Text) : List Piece := piecesFrom t.length t

/-- A mark with its brackets. -/
def bracketed (body : Text) : Text := Text.concat ["[", body, "]"]

/-- What is shown of a piece: two backslashes in front of a mark stand for one, and a single one
turns the mark into text. -/
def Piece.shown : Piece → Text
  | .plain t => t
  | .mark n body =>
    List.replicate (n / 2) (Code.ofChar '\\') ++ if n % 2 = 1 then bracketed body else []

/-- A marked-up text without its marks. -/
def unmarked (t : Text) : Text := (pieces t).flatMap Piece.shown

/-- A piece whose mark is text. -/
def Piece.literal : Piece → Text
  | .plain t => t
  | .mark n body => List.replicate n (Code.ofChar '\\') ++ bracketed body

/-- A text whose marks are shown as text. -/
def literal (t : Text) : Text := (pieces t).flatMap Piece.literal

end Text

end ThemeForge

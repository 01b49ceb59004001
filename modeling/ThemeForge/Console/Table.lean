import ThemeForge.Console.Line

/-!
# Tables

A table has a title, headings and rows. Every column is as wide as its widest cell, with a space on
both sides, and the title is centred above. Cells are marked-up text. What a library for tables can
do besides is left out: a width that is given, wrapped cells, colours.

* `Table`, `Table.unmarked`: tables, with marks and without;
* `Table.render`: the text of a table without marks.
-/

namespace ThemeForge

/-- A table; all rows are as long as the row of headings. -/
structure Table where
  title : Text
  headings : List Text
  rows : List (List Text)
deriving DecidableEq, Repr

namespace Table

/-- A table with its cells as they are shown. -/
def unmarked (t : Table) : Table :=
  { t with rows := t.rows.map fun row => row.map fun c => Text.shown (Text.unmarked c) }

/-- The width of each column, in cells. -/
def widths (t : Table) : List Nat :=
  t.rows.foldl (fun ws row => List.zipWith (fun w c => max w (Text.cells c)) ws row)
    (t.headings.map Text.cells)

/-- `n` times the same code point. -/
def repeated (c : Code) (n : Nat) : Text := List.replicate n c

/-- A cell with the blanks around it. -/
def cell (width : Nat) (t : Text) : Text :=
  Text.concat [" ", t, repeated ' ' (width - Text.cells t), " "]

/-- A row between vertical lines. -/
def line (bar : Code) (ws : List Nat) (row : List Text) : Text :=
  Text.concat [[bar], Text.join [bar] (List.zipWith cell ws row), [bar]]

/-- A horizontal line with its joints. -/
def rule (left stroke joint right : Code) (ws : List Nat) : Text :=
  Text.concat [[left], Text.join [joint] (ws.map fun w => repeated stroke (w + 2)), [right]]

/-- A text in the middle of a width; the larger half of the blanks comes last. -/
def centred (width : Nat) (t : Text) : Text :=
  let gap := width - Text.cells t
  Text.concat [repeated ' ' (gap / 2), t, repeated ' ' (gap - gap / 2)]

/-- The width of the whole. -/
def width (ws : List Nat) : Nat := ws.foldr (fun w n => w + 3 + n) 1

/-- The text of a table. -/
def render (t : Table) : Text :=
  let ws := t.widths
  let lines := [centred (width ws) t.title, rule '┏' '━' '┳' '┓' ws, line '┃' ws t.headings,
    rule '┡' '━' '╇' '┩' ws] ++ t.rows.map (line '│' ws) ++ [rule '└' '─' '┴' '┘' ws]
  lines.flatMap fun l => l ++ "\n"

end Table

end ThemeForge

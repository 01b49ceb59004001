import ThemeForge.Yaml.Cursor
import ThemeForge.Yaml.Fault

/-!
# Scalars of YAML

The three styles in which scalars are written: plain, quoted and block. Each reader starts at the
scalar and gives its text together with the cursor behind it. Line breaks inside plain and quoted
scalars are folded: a single one becomes a space, of several the first disappears.

* `Yaml.readPlain`: plain scalars, which end at an indicator, at a comment or at the indentation;
* `Yaml.readQuoted?`: single and double quotes, the latter with escapes;
* `Yaml.readBlock?`: literal and folded blocks with their header.
-/

namespace ThemeForge.Yaml

/-- Reading that may fail. -/
abbrev Reading := Except Fault

/-- The document is malformed. -/
def malformed {α : Type} : Reading α := .error .malformed

/-- A folded break: `first` is the break itself and `later` the breaks of the empty lines after
it. -/
def foldBreak (first later : Text) : Text :=
  if first ≠ "\n" then first ++ later else if later = [] then " " else later

/-! ## Plain scalars -/

/-- Breaks and spaces after the first break of a plain scalar, up to the next text or a document
marker; the flag says that no marker was met. -/
def plainBreaks : Nat → Cursor → Text → Text × Cursor × Bool
  | 0, c, acc => (acc, c, true)
  | fuel + 1, c, acc =>
    if c.sees ' ' then plainBreaks fuel c.next acc
    else if c.head.any isBreak then
      let (b, c) := c.takeBreak
      if c.seesDocumentMarker then (acc ++ b, c, false) else plainBreaks fuel c (acc ++ b)
    else (acc, c, true)

/-- What separates two pieces of a plain scalar; `none` when the scalar ends here for certain. The
flag says that a line break was passed. -/
def plainGap (c : Cursor) : Option Text × Cursor × Bool :=
  let (spaces, c) := c.takeWhile (· == ' ')
  if c.head.any isBreak then
    let (first, c) := c.takeBreak
    if c.seesDocumentMarker then (none, c, true)
    else
      let (later, c, whole) := plainBreaks (c.rest.length + 1) c []
      (if whole then some (foldBreak first later) else none, c, true)
  else (if spaces = [] then none else some spaces, c, false)

/-- The code points of a piece of a plain scalar: up to a blank, a colon that ends a key, and in
flow context an indicator. -/
def plainPiece (inFlow : Bool) : Text → Text
  | [] => []
  | a :: rest =>
    let colon := a == ':' && (atBlank rest.head? || (inFlow && isOneOf ",[]\x7b\x7d" rest.head?))
    if atBlank (some a) || colon || (inFlow && isOneOf ",?[]\x7b\x7d" (some a)) then []
    else a :: plainPiece inFlow rest

/-- Pieces of a plain scalar, read so far as `acc` and separated from what comes by `gap`. -/
def plainPieces (inFlow : Bool) (indent : Int) :
    Nat → Cursor → (acc gap : Text) → (crossed : Bool) → Text × Cursor × Bool
  | 0, c, acc, _, crossed => (acc, c, crossed)
  | fuel + 1, c, acc, gap, crossed =>
    let piece := if c.sees '#' then [] else plainPiece inFlow c.rest
    if piece = [] then (acc, c, crossed)
    else
      let (next, c, broke) := plainGap (c.advance piece.length)
      let acc := acc ++ gap ++ piece
      match next with
      | none => (acc, c, broke)
      | some gap =>
        if c.sees '#' || (!inFlow && (c.column : Int) < indent) then (acc, c, broke)
        else plainPieces inFlow indent fuel c acc gap broke

/-- A plain scalar; the flag says that the last thing passed was a line break. -/
def readPlain (inFlow : Bool) (indent : Int) (c : Cursor) : Text × Cursor × Bool :=
  plainPieces inFlow (indent + 1) (c.rest.length + 1) c [] [] false

/-! ## Quoted scalars -/

/-- What an escape of one code point stands for. -/
def escaped? (c : Code) : Option Code :=
  if c = '0' then some '\x00' else if c = 'a' then some '\x07' else if c = 'b' then some '\x08'
  else if c = 't' ∨ c = '\t' then some '\t' else if c = 'n' then some '\n'
  else if c = 'v' then some '\x0b' else if c = 'f' then some '\x0c' else if c = 'r' then some '\r'
  else if c = 'e' then some '\x1b' else if c = ' ' ∨ c = '"' ∨ c = '\\' ∨ c = '/' then some c
  else if c = 'N' then some (Code.ofNat 0x85) else if c = '_' then some (Code.ofNat 0xa0)
  else if c = 'L' then some (Code.ofNat 0x2028) else if c = 'P' then some (Code.ofNat 0x2029)
  else none

/-- The number of hexadecimal digits after an escape letter. -/
def escapeDigits? (c : Code) : Option Nat :=
  if c = 'x' then some 2 else if c = 'u' then some 4 else if c = 'U' then some 8 else none

/-- The value of hexadecimal digits. -/
def hexNumber? (t : Text) : Option Nat :=
  t.foldl (fun acc c => do return (← acc) * 16 + (← c.hexValue?)) (some 0)

/-- The code point of a number. -/
def codePoint? (n : Nat) : Reading Code :=
  if h : n < 0x110000 then .ok ⟨n, h⟩
  else .error (.scalar (if n < 0x80000000 then .codePoint else .hugeCodePoint))

/-- The breaks of empty lines inside a quoted scalar. -/
def quotedBreaks : Nat → Cursor → Text → Reading (Text × Cursor)
  | 0, c, acc => .ok (acc, c)
  | fuel + 1, c, acc =>
    if c.seesDocumentMarker then malformed
    else
      let c := c.skipWhile fun x => x == ' ' || x == '\t'
      if c.head.any isBreak then
        let (b, c) := c.takeBreak
        quotedBreaks fuel c (acc ++ b)
      else .ok (acc, c)

/-- The text of a quoted scalar up to its closing quote; `acc` has been read. -/
def quotedText (double : Bool) : Nat → Cursor → Text → Reading (Text × Cursor)
  | 0, _, _ => malformed
  | fuel + 1, c, acc =>
    match c.head with
    | none => malformed
    | some a =>
      if a = ' ' ∨ a = '\t' ∨ isBreak a then
        let (blanks, c) := c.takeWhile fun x => x == ' ' || x == '\t'
        match c.head with
        | none => malformed
        | some b =>
          if isBreak b then do
            let (first, c) := c.takeBreak
            let (later, c) ← quotedBreaks (c.rest.length + 1) c []
            quotedText double fuel c (acc ++ foldBreak first later)
          else quotedText double fuel c (acc ++ blanks)
      else if a = (if double then '"' else '\'') then
        if !double && c.peek 1 == some (Code.ofChar '\'') then
          quotedText double fuel (c.advance 2) (acc ++ "'")
        else .ok (acc, c.next)
      else if double && a == '\\' then
        match c.peek 1 with
        | none => malformed
        | some e =>
          match escaped? e, escapeDigits? e with
          | some x, _ => quotedText double fuel (c.advance 2) (acc ++ [x])
          | none, some n =>
            let digits := (c.rest.drop 2).take n
            if digits.length < n then malformed
            else
              match hexNumber? digits with
              | none => malformed
              | some v => do
                let x ← codePoint? v
                quotedText double fuel (c.advance (2 + n)) (acc ++ [x])
          | none, none =>
            if isBreak e then do
              let (_, c) := c.next.takeBreak
              let (later, c) ← quotedBreaks (c.rest.length + 1) c []
              quotedText double fuel c (acc ++ later)
            else malformed
      else quotedText double fuel c.next (acc ++ [a])

/-- A quoted scalar, of which the cursor is at the opening quote. -/
def readQuoted? (double : Bool) (c : Cursor) : Reading (Text × Cursor) :=
  quotedText double (c.rest.length + 1) c.next []

/-! ## Block scalars -/

/-- What becomes of the line breaks at the end of a block: all kept, none kept, or one. -/
inductive Chomping
  | keep
  | strip
  | clip
deriving DecidableEq, Repr

/-- The chomping that a sign asks for. -/
def chomping? (c : Option Code) : Option Chomping :=
  if c == some (Code.ofChar '+') then some .keep
  else if c == some (Code.ofChar '-') then some .strip else none

/-- The indentation that a digit asks for. -/
def increment? (c : Option Code) : Option Nat :=
  c.bind fun x => if x.isDigit then some (x.val - 48) else none

/-- The header of a block: chomping and indentation in either order. -/
def blockHeader (c : Cursor) : Reading (Chomping × Option Nat × Cursor) :=
  let finish (chomp : Chomping) (inc : Option Nat) (c : Cursor) :
      Reading (Chomping × Option Nat × Cursor) :=
    if inc = some 0 ∨ !atSpace c.head then malformed else .ok (chomp, inc, c)
  match chomping? c.head with
  | some chomp =>
    let c := c.next
    match increment? c.head with
    | some n => finish chomp (some n) c.next
    | none => finish chomp none c
  | none =>
    match increment? c.head with
    | some n =>
      let c := c.next
      match chomping? c.head with
      | some chomp => finish chomp (some n) c.next
      | none => finish .clip (some n) c
    | none => finish .clip none c

/-- The rest of a line on which nothing but a comment may stand. -/
def ignoredLine (c : Cursor) : Reading Cursor :=
  let c := c.skipSpaces.skipComment
  if atBreak c.head then .ok c.takeBreak.2 else malformed

/-- The empty lines in front of a block whose indentation is not given, and the widest of them. -/
def blockIndentation : Nat → Cursor → Text → Nat → Text × Nat × Cursor
  | 0, c, acc, widest => (acc, widest, c)
  | fuel + 1, c, acc, widest =>
    if c.sees ' ' then
      let c := c.next
      blockIndentation fuel c acc (max widest c.column)
    else if c.head.any isBreak then
      let (b, c) := c.takeBreak
      blockIndentation fuel c (acc ++ b) widest
    else (acc, widest, c)

/-- Spaces up to a column. -/
def skipIndent (indent : Nat) (c : Cursor) : Cursor :=
  c.advance (min (indent - c.column) (c.takeWhile (· == ' ')).1.length)

/-- The breaks of empty lines in a block. -/
def blockBreaks (indent : Nat) : Nat → Cursor → Text → Text × Cursor
  | 0, c, acc => (acc, c)
  | fuel + 1, c, acc =>
    let c := skipIndent indent c
    if c.head.any isBreak then
      let (b, c) := c.takeBreak
      blockBreaks indent fuel c (acc ++ b)
    else (acc, c)

/-- Whether the next code point is a space or a tab. -/
def seesIndent (c : Cursor) : Bool := c.sees ' ' || c.sees '\t'

/-- The lines of a block; `breaks` stands in front of the next one. The text, the last line break
and the breaks after it. -/
def blockLines (folded : Bool) (indent : Nat) :
    Nat → Cursor → (acc breaks : Text) → Text × Text × Text × Cursor
  | 0, c, acc, breaks => (acc, [], breaks, c)
  | fuel + 1, c, acc, breaks =>
    let solid := !seesIndent c
    let (line, c) := c.takeWhile fun x => !isBreak x
    let (last, c) := c.takeBreak
    let acc := acc ++ breaks ++ line
    let (breaks, c) := blockBreaks indent (c.rest.length + 1) c []
    if c.column = indent ∧ c.head.isSome then
      let glue := if folded && last == "\n" && solid && !seesIndent c then
        (if breaks = [] then (" " : Text) else []) else last
      blockLines folded indent fuel c (acc ++ glue) breaks
    else (acc, last, breaks, c)

/-- A block scalar inside the indentation `outer`, of which the cursor is at the indicator. -/
def readBlock? (folded : Bool) (outer : Int) (c : Cursor) : Reading (Text × Cursor) := do
  let (chomp, inc, c) ← blockHeader c.next
  let c ← ignoredLine c
  let least := (max 1 (outer + 1)).toNat
  let (breaks, indent, c) := match inc with
    | none =>
      let (breaks, widest, c) := blockIndentation (c.rest.length + 1) c [] 0
      (breaks, max least widest, c)
    | some n =>
      let indent := least + n - 1
      let (breaks, c) := blockBreaks indent (c.rest.length + 1) c []
      (breaks, indent, c)
  let (text, last, breaks, c) :=
    if c.column = indent ∧ c.head.isSome then
      blockLines folded indent (c.rest.length + 1) c [] breaks
    else ([], [], breaks, c)
  return (Text.concat [text, if chomp = .strip then [] else last,
    if chomp = .keep then breaks else []], c)

end ThemeForge.Yaml

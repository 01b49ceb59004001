import ThemeForge.Text.Utf8
import ThemeForge.Yaml.Scalar
import ThemeForge.Yaml.Token

/-!
# From text to tokens

Block structure in YAML follows from indentation, and a key is recognised only when the colon after
it is met: its token is then put in front of the tokens that turned out to be the key. The lexer
therefore remembers, for every level of nesting, where a key may have begun.

* `Lexer`: the state between two tokens;
* `Lexer.step`: reads what comes next; `tokens` runs it to the end of the text;
* a fault in the middle is reported together with the tokens in front of it.
-/

namespace ThemeForge.Yaml

/-- A place where a key may have begun: the number of tokens before it, and its position. A
required key stands where its line's indentation demands one. -/
structure PossibleKey where
  token : Nat
  required : Bool
  index : Nat
  line : Nat
  column : Nat
deriving Repr

/-- The state of the lexer. Tokens are kept latest first. -/
structure Lexer where
  cursor : Cursor
  tokens : List Token := []
  flowLevel : Nat := 0
  indent : Int := -1
  indents : List Int := []
  keyAllowed : Bool := true
  keys : List (Nat × PossibleKey) := []
deriving Repr

namespace Lexer

/-- Whether the lexer is outside flow collections. -/
def inBlock (l : Lexer) : Bool := l.flowLevel == 0

/-- Adds a token. -/
def push (l : Lexer) (t : Token) : Lexer := { l with tokens := t :: l.tokens }

/-- Puts a token in front of all but the first `n` tokens. -/
def insert (l : Lexer) (n : Nat) (t : Token) : Lexer :=
  let later := l.tokens.length - n
  { l with tokens := l.tokens.take later ++ t :: l.tokens.drop later }

/-- The place where a key may have begun on the current level. -/
def possibleKey (l : Lexer) : Option PossibleKey := l.keys.lookup l.flowLevel

/-- Forgets the place where a key may have begun on the current level. -/
def forgetKey (l : Lexer) : Lexer :=
  { l with keys := l.keys.filter fun e => e.1 != l.flowLevel }

/-- Gives up a possible key on the current level, which must not be required. -/
def dropKey (l : Lexer) : Reading Lexer :=
  match l.possibleKey with
  | some k => if k.required then malformed else .ok l.forgetKey
  | none => .ok l

/-- Keys fit on one line and are at most 1024 code points long. -/
def expireKeys (l : Lexer) : Reading Lexer :=
  let isStale (k : PossibleKey) : Bool :=
    k.line != l.cursor.line || l.cursor.index - k.index > 1024
  if l.keys.any fun e => isStale e.2 && e.2.required then malformed
  else .ok { l with keys := l.keys.filter fun e => !isStale e.2 }

/-- Notes that a key may begin here. -/
def noteKey (l : Lexer) : Reading Lexer :=
  if l.keyAllowed then do
    let required := l.inBlock && l.indent == (l.cursor.column : Int)
    let l ← l.dropKey
    let key := ⟨l.tokens.length, required, l.cursor.index, l.cursor.line, l.cursor.column⟩
    return { l with keys := (l.flowLevel, key) :: l.keys }
  else .ok l

/-- Closes the block collections that are indented further than `column`. -/
def unwindFrom (column : Int) : List Int → Lexer → Lexer
  | [], l => l
  | outer :: indents, l =>
    if l.indent > column then
      unwindFrom column indents
        { l with indent := outer, indents := indents, tokens := .blockEnd :: l.tokens }
    else l

/-- Closes the block collections that are indented further than `column`, in block context. -/
def unwind (column : Int) (l : Lexer) : Lexer :=
  if l.inBlock then unwindFrom column l.indents l else l

/-- Opens a block collection at `column` if it is indented further than the current one; the flag
says whether it was. -/
def indentTo (column : Nat) (l : Lexer) : Bool × Lexer :=
  if l.indent < column then
    (true, { l with indents := l.indent :: l.indents, indent := column })
  else (false, l)

/-- Passes spaces, comments and line breaks up to the next token. A line break makes a key possible
in block context. -/
def skipGap : Nat → Lexer → Lexer
  | 0, l => l
  | fuel + 1, l =>
    let c := l.cursor.skipSpaces.skipComment
    if c.head.any isBreak then
      skipGap fuel { l with cursor := c.takeBreak.2, keyAllowed := l.keyAllowed || l.inBlock }
    else { l with cursor := c }

/-- A byte order mark at the start of the text is passed over. -/
def skipMark (l : Lexer) : Lexer :=
  if l.cursor.index == 0 && l.cursor.head.any (fun c => c.val == 0xfeff) then
    { l with cursor := l.cursor.next }
  else l

/-! ## Names, tags and directives -/

/-- A tag handle: exclamation marks around a name, or a single one. -/
def readHandle (c : Cursor) : Reading (Text × Cursor) :=
  if !c.sees '!' then malformed
  else if c.peek 1 == some (Code.ofChar ' ') then .ok ("!", c.next)
  else
    let name := (c.rest.drop 1).takeWhile isNameCode
    if c.peek (name.length + 1) == some (Code.ofChar '!') then
      .ok (Text.concat ["!", name, "!"], c.advance (name.length + 2))
    else malformed

/-- A code point of a tag suffix. -/
def isTagCode (c : Code) : Bool :=
  isNameCode c || isOneOf ";/?:@&=+$,_.!~*'()[]%" (some c)

/-- The bytes of a run of percent escapes, and the cursor after them. -/
def percentBytes : Nat → Cursor → Bytes → Reading (Bytes × Cursor)
  | 0, c, acc => .ok (acc, c)
  | fuel + 1, c, acc =>
    if c.sees '%' then
      match (c.peek 1).bind Code.hexValue?, (c.peek 2).bind Code.hexValue? with
      | some a, some b => percentBytes fuel (c.advance 3) (acc ++ [(16 * a + b).toUInt8])
      | _, _ => malformed
    else .ok (acc, c)

/-- A tag suffix, in which percent escapes stand for UTF-8. -/
def readSuffix : Nat → Cursor → Text → Reading (Text × Cursor)
  | 0, c, acc => .ok (acc, c)
  | fuel + 1, c, acc =>
    match c.head with
    | some x =>
      if x = '%' then do
        let (bytes, c) ← percentBytes (c.rest.length + 1) c []
        match Utf8.decode? bytes with
        | .ok t => readSuffix fuel c (acc ++ t)
        | .error _ => malformed
      else if isTagCode x then readSuffix fuel c.next (acc ++ [x])
      else if acc = [] then malformed else .ok (acc, c)
    | none => if acc = [] then malformed else .ok (acc, c)

/-- A tag suffix. -/
def readUri (c : Cursor) : Reading (Text × Cursor) := readSuffix (c.rest.length + 1) c []

/-- A tag: verbatim, with a handle, or the non-specific one. -/
def readTag (c : Cursor) : Reading (Token × Cursor) := do
  let (token, c) ←
    if c.peek 1 == some (Code.ofChar '<') then do
      let (uri, c) ← readUri (c.advance 2)
      if c.sees '>' then pure (Token.tag none uri, c.next) else malformed
    else if atBlank (c.peek 1) then pure (Token.tag none "!", c.next)
    else if ((c.rest.drop 1).takeWhile fun x => !atSpace (some x)).contains (Code.ofChar '!')
    then do
      let (handle, c) ← readHandle c
      let (uri, c) ← readUri c
      pure (Token.tag (some handle) uri, c)
    else do
      let (uri, c) ← readUri c.next
      pure (Token.tag (some "!") uri, c)
  if atSpace c.head then return (token, c) else malformed

/-- The name of an anchor or alias, of which the cursor is at the indicator. -/
def readName (c : Cursor) : Reading (Text × Cursor) :=
  let (name, c) := c.next.takeWhile isNameCode
  if name ≠ [] ∧ (atBlank c.head ∨ isOneOf "?:,]\x7d%@\x60" c.head) then .ok (name, c)
  else malformed

/-- A decimal number. -/
def readNumber (c : Cursor) : Reading (Nat × Cursor) :=
  let (ds, c) := c.takeWhile Code.isDigit
  if ds = [] then malformed else .ok (Text.toNat ds, c)

/-- A directive, of which the cursor is at the percent sign, and the rest of its line. -/
def readDirective (c : Cursor) : Reading (Token × Cursor) := do
  let (name, c) := c.next.takeWhile isNameCode
  if name = [] ∨ !atSpace c.head then malformed
  else
    let (token, c) ←
      if name = "YAML" then do
        let (major, c) ← readNumber c.skipSpaces
        if !c.sees '.' then malformed
        else
          let (_, c) ← readNumber c.next
          if atSpace c.head then pure (Token.versionDirective major, c) else malformed
      else if name = "TAG" then do
        let (handle, c) ← readHandle c.skipSpaces
        if !c.sees ' ' then malformed
        else
          let (start, c) ← readUri c.skipSpaces
          if atSpace c.head then pure (Token.tagDirective handle start, c) else malformed
      else pure (Token.otherDirective, c.skipWhile fun x => !isBreak x)
    return (token, ← ignoredLine c)

/-! ## Tokens -/

/-- A marker that ends all block collections. -/
def boundary (l : Lexer) : Reading Lexer := do
  let l ← (l.unwind (-1)).dropKey
  return { l with keyAllowed := false }

/-- A document marker. -/
def marker (t : Token) (l : Lexer) : Reading Lexer := do
  let l ← l.boundary
  return { l with cursor := l.cursor.advance 3 }.push t

/-- The start of a flow collection. -/
def flowStart (t : Token) (l : Lexer) : Reading Lexer := do
  let l ← l.noteKey
  return { l with flowLevel := l.flowLevel + 1, keyAllowed := true, cursor := l.cursor.next }.push t

/-- The end of a flow collection. -/
def flowEnd (t : Token) (l : Lexer) : Reading Lexer := do
  let l ← l.dropKey
  if l.flowLevel = 0 then malformed
  else return { l with
    flowLevel := l.flowLevel - 1, keyAllowed := false, cursor := l.cursor.next }.push t

/-- A comma. -/
def comma (l : Lexer) : Reading Lexer := do
  let l ← { l with keyAllowed := true }.dropKey
  return { l with cursor := l.cursor.next }.push .flowEntry

/-- Opens a block collection here if the indentation says so. -/
def openBlock (t : Token) (l : Lexer) : Reading Lexer :=
  if l.inBlock then
    if !l.keyAllowed then malformed
    else
      let (opened, l) := l.indentTo l.cursor.column
      .ok (if opened then l.push t else l)
  else .ok l

/-- The dash of a sequence entry. -/
def dash (l : Lexer) : Reading Lexer := do
  let l ← l.openBlock .blockSequenceStart
  let l ← { l with keyAllowed := true }.dropKey
  return { l with cursor := l.cursor.next }.push .blockEntry

/-- The question mark of a key. -/
def questionMark (l : Lexer) : Reading Lexer := do
  let l ← l.openBlock .blockMappingStart
  let l ← { l with keyAllowed := l.inBlock }.dropKey
  return { l with cursor := l.cursor.next }.push .key

/-- The colon of a value: what may have been a key is one now. -/
def colon (l : Lexer) : Reading Lexer := do
  let l ← match l.possibleKey with
    | some k =>
      let l := l.forgetKey.insert k.token .key
      let l := if l.inBlock then
          let (opened, l) := l.indentTo k.column
          if opened then l.insert k.token .blockMappingStart else l
        else l
      pure { l with keyAllowed := false }
    | none => do
      let l ← l.openBlock .blockMappingStart
      { l with keyAllowed := l.inBlock }.dropKey
  return { l with cursor := l.cursor.next }.push .value

/-- A token that may begin a key. -/
def property (read : Cursor → Reading (Token × Cursor)) (l : Lexer) : Reading Lexer := do
  let l ← l.noteKey
  let (t, c) ← read l.cursor
  return { l with keyAllowed := false, cursor := c }.push t

/-- A quoted scalar. -/
def quoted (double : Bool) (l : Lexer) : Reading Lexer :=
  l.property fun c => do
    let (t, c) ← readQuoted? double c
    return (.scalar t false, c)

/-- A plain scalar. After a line break a key may begin. -/
def plain (l : Lexer) : Reading Lexer := do
  let l ← l.noteKey
  let (t, c, crossed) := readPlain (!l.inBlock) l.indent l.cursor
  return { l with keyAllowed := crossed, cursor := c }.push (.scalar t true)

/-- A block scalar. -/
def block (folded : Bool) (l : Lexer) : Reading Lexer := do
  let l ← { l with keyAllowed := true }.dropKey
  let (t, c) ← readBlock? folded l.indent l.cursor
  return { l with cursor := c }.push (.scalar t false)

/-- Whether a plain scalar may begin here. -/
def plainMayStart (l : Lexer) (a : Code) : Bool :=
  !(atBlank (some a) || isOneOf "-?:,[]\x7b\x7d#&*!|>'\"%@\x60" (some a))
    || (!atBlank (l.cursor.peek 1) && (a == '-' || (l.inBlock && (a == '?' || a == ':'))))

/-- Reads what comes next; `none` at the end of the text. -/
def step (l : Lexer) : Reading (Option Lexer) := do
  let l := l.skipMark
  let l := skipGap (l.cursor.rest.length + 1) l
  let l ← l.expireKeys
  let l := l.unwind l.cursor.column
  let c := l.cursor
  match c.head with
  | none => return none
  | some a =>
    if a = '%' ∧ c.column = 0 then
      let l ← l.boundary
      let (t, c) ← readDirective l.cursor
      return some ({ l with cursor := c }.push t)
    else if c.column = 0 ∧ c.seesMarker "---" then l.marker .documentStart
    else if c.column = 0 ∧ c.seesMarker "..." then l.marker .documentEnd
    else if a = '[' then l.flowStart .flowSequenceStart
    else if a = '\x7b' then l.flowStart .flowMappingStart
    else if a = ']' then l.flowEnd .flowSequenceEnd
    else if a = '\x7d' then l.flowEnd .flowMappingEnd
    else if a = ',' then l.comma
    else if a = '-' ∧ atBlank (c.peek 1) then l.dash
    else if a = '?' ∧ (!l.inBlock ∨ atBlank (c.peek 1)) then l.questionMark
    else if a = ':' ∧ (!l.inBlock ∨ atBlank (c.peek 1)) then l.colon
    else if a = '*' then l.property fun c => do
      let (name, c) ← readName c
      return (.alias name, c)
    else if a = '&' then l.property fun c => do
      let (name, c) ← readName c
      return (.anchor name, c)
    else if a = '!' then l.property readTag
    else if a = '|' ∧ l.inBlock then l.block false
    else if a = '>' ∧ l.inBlock then l.block true
    else if a = '\'' then l.quoted false
    else if a = '"' then l.quoted true
    else if l.plainMayStart a then l.plain
    else malformed

/-- What remains to be closed at the end of the text. -/
def finish (l : Lexer) : Reading Lexer := (l.unwind (-1)).dropKey

/-- Runs the lexer: the tokens in order, and the fault that stopped it, if any. -/
def run : Nat → Lexer → List Token × Option Fault
  | 0, l => (l.tokens.reverse, some .malformed)
  | fuel + 1, l =>
    match l.step with
    | .error f => (l.tokens.reverse, some f)
    | .ok (some l) => run fuel l
    | .ok none =>
      let l := skipGap (l.cursor.rest.length + 1) l
      match l.finish with
      | .error f => (l.tokens.reverse, some f)
      | .ok l => (l.tokens.reverse, none)

end Lexer

/-- The code points that a YAML text may hold. -/
def isPermitted (c : Code) : Bool :=
  c == '\t' || c == '\n' || c == '\r' || (0x20 ≤ c.val && c.val ≤ 0x7e) || c.val == 0x85
    || (0xa0 ≤ c.val && c.val ≤ 0xd7ff) || (0xe000 ≤ c.val && c.val ≤ 0xfffd)
    || 0x10000 ≤ c.val

/-- The tokens of a text, and the fault that stopped the lexer, if any. -/
def tokens (t : Text) : List Token × Option Fault :=
  if t.all isPermitted then Lexer.run (t.length + 2) { cursor := { rest := t } }
  else ([], some .malformed)

end ThemeForge.Yaml

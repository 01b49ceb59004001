import ThemeForge.Number.Double
import ThemeForge.Text.Blank
import ThemeForge.Text.Identifier
import ThemeForge.Text.Utf8
import ThemeForge.Template.Fault

/-!
# From template source to tokens

The lexer alternates between plain text and the four kinds of tags. A hyphen next to a tag's
delimiter removes the blanks on that side. A fault ends the token sequence; whoever reads the tokens
meets it only after the tokens in front of it.

* `tokens`: the tokens of a source and the fault that ends them, if any;
* `unescape?`: the text of a string literal.
-/

namespace ThemeForge.Template

/-! ## String literals -/

/-- The ASCII form of a text, in which other code points are written by number. -/
def asciiForm (t : Text) : Text :=
  t.flatMap fun c => if c.val < 0x80 then [c] else c.numbered

/-- The value of exactly `n` hexadecimal digits. -/
def hexDigits? (n : Nat) (t : Text) : Option Nat :=
  if (t.take n).length < n then none
  else (t.take n).foldl (fun acc c => do return (← acc) * 16 + (← c.hexValue?)) (some 0)

/-- The control character of an escape letter. -/
def controlEscape? (c : Code) : Option Code :=
  if c = '\\' ∨ c = '\'' ∨ c = '"' then some c
  else if c = 'a' then some '\x07' else if c = 'b' then some '\x08' else if c = 'f' then some '\x0c'
  else if c = 'n' then some '\n' else if c = 'r' then some '\r' else if c = 't' then some '\t'
  else if c = 'v' then some '\x0b' else none

/-- Resolves the escapes of an ASCII text. Unknown escapes stand for themselves. -/
def resolveEscapes? : Nat → Text → Except Text Text
  | 0, _ => .ok []
  | _, [] => .ok []
  | fuel + 1, c :: rest =>
    if c ≠ '\\' then do return c :: (← resolveEscapes? fuel rest)
    else
      match rest with
      | [] => .error "\\ at end of string"
      | e :: rest' =>
        let byNumber (n : Nat) (detail : Text) : Except Text Text :=
          match hexDigits? n rest' with
          | none => .error detail
          | some v =>
            if v < 0x110000 then do
              return Code.ofNat v :: (← resolveEscapes? fuel (rest'.drop n))
            else .error "illegal Unicode character"
        if e = '\n' then resolveEscapes? fuel rest'
        else
          match controlEscape? e with
          | some k => do return k :: (← resolveEscapes? fuel rest')
          | none =>
            if e.octalValue?.isSome then
              let ds := (rest.take 3).takeWhile fun d => d.octalValue?.isSome
              let v := ds.foldl (fun n d => 8 * n + (d.val - 48)) 0
              do return Code.ofNat v :: (← resolveEscapes? fuel (rest.drop ds.length))
            else if e = 'x' then byNumber 2 "truncated \\xXX escape"
            else if e = 'u' then byNumber 4 "truncated \\uXXXX escape"
            else if e = 'U' then byNumber 8 "truncated \\UXXXXXXXX escape"
            else if e = 'N' then .error "malformed \\N character escape"
            else do return c :: e :: (← resolveEscapes? fuel rest')

/-- The text of a string literal, given without its quotes. -/
def unescape? (t : Text) : Except Text Text :=
  let ascii := asciiForm t
  resolveEscapes? (ascii.length + 1) ascii

/-! ## Numbers -/

/-- The length of a run of digits in which single underscores may stand between digits. -/
def digitRun (isDigit : Code → Bool) : Text → Nat
  | [] => 0
  | [c] => if isDigit c then 1 else 0
  | c :: d :: rest =>
    if isDigit c then
      if d = '_' ∧ (rest.head?.any isDigit) then 2 + digitRun isDigit rest
      else 1 + digitRun isDigit (d :: rest)
    else 0

/-- The length of an exponent at the start of a text, zero if there is none. -/
def exponentRun (t : Text) : Nat :=
  match t with
  | e :: rest =>
    if e = 'e' ∨ e = 'E' then
      let signed := isOneOfSigns rest
      let n := digitRun Code.isDigit (rest.drop signed)
      if n = 0 then 0 else 1 + signed + n
    else 0
  | [] => 0
where
  /-- One if a sign comes first, else zero. -/
  isOneOfSigns : Text → Nat
    | s :: _ => if s = '+' ∨ s = '-' then 1 else 0
    | [] => 0

/-- The lengths of the whole part, the fraction with its point and the exponent of a float at the
start of a text; a float has a fraction or an exponent. -/
def floatRun? (t : Text) : Option (Nat × Nat × Nat) :=
  let whole := digitRun Code.isDigit t
  if whole = 0 then none
  else
    let rest := t.drop whole
    let part := match rest with
      | p :: rest' =>
        if p = '.' then
          let n := digitRun Code.isDigit rest'
          if n = 0 then 0 else n + 1
        else 0
      | [] => 0
    let power := exponentRun (rest.drop part)
    if part = 0 ∧ power = 0 then none else some (whole, part, power)

/-- The digits of a numeral. -/
def bareDigits (t : Text) : Text := t.filter fun c => c != '_'

/-- The value of a float with parts of the given lengths. -/
def floatValue (t : Text) (whole part power : Nat) : Double :=
  let ws := bareDigits (t.take whole)
  let ps := bareDigits ((t.drop whole).take part |>.drop 1)
  let es := bareDigits ((t.drop (whole + part)).take power |>.drop 1)
  let e : Int := match es with
    | s :: ds =>
      if s = '-' then -(Text.toNat ds : Int)
      else if s = '+' then Text.toNat ds else Text.toNat (s :: ds)
    | [] => 0
  .ofDecimal false (Text.toNat (ws ++ ps)) (e - ps.length)

/-- Binary, octal and hexadecimal digits after their announcement. -/
def basedDigits? (t : Text) : Option (Nat × (Code → Bool)) :=
  match t with
  | z :: b :: _ =>
    if z ≠ '0' then none
    else if b = 'b' ∨ b = 'B' then some (2, fun c => c == '0' || c == '1')
    else if b = 'o' ∨ b = 'O' then some (8, fun c => c.octalValue?.isSome)
    else if b = 'x' ∨ b = 'X' then some (16, fun c => c.hexValue?.isSome)
    else none
  | _ => none

/-- The most decimal digits of an integer. -/
def maxDigits : Nat := 4300

/-- The length and the value of an integer at the start of a text, or what is wrong with it. -/
def integerRun? (t : Text) : Option (Except SourceProblem (Nat × Nat)) :=
  let based := (basedDigits? t).bind fun (base, isDigit) =>
    let body := t.drop 2
    let skip := if body.head? = some (Code.ofChar '_') then 1 else 0
    let n := digitRun isDigit (body.drop skip)
    if n = 0 then none
    else some (.ok (2 + skip + n, (bareDigits ((body.drop skip).take n)).foldl
      (fun v c => base * v + (c.hexValue?).getD 0) 0))
  match based with
  | some r => some r
  | none =>
    match t with
    | c :: _ =>
      if c = '0' then some (.ok (digitRun (fun d => d == '0') t, 0))
      else if c.isDigit then
        let n := digitRun Code.isDigit t
        let digits := bareDigits (t.take n)
        if digits.length > maxDigits then some (.error (.longInteger digits.length))
        else some (.ok (n, Text.toNat digits))
      else none
    | [] => none

/-! ## Tags in text -/

/-- The kinds of tags. -/
inductive Tag
  | print
  | block
  | comment
deriving DecidableEq, Repr

/-- The opening delimiter at the start of a text. -/
def openingTag? : Text → Option Tag
  | a :: b :: _ =>
    if a ≠ '\x7b' then none
    else if b = '\x7b' then some .print
    else if b = '%' then some .block
    else if b = '#' then some .comment
    else none
  | _ => none

/-- The text before the first opening delimiter, the tag it opens, and what follows from the
delimiter on. -/
def splitAtTag : Text → Text × Option (Tag × Text)
  | [] => ([], none)
  | t@(a :: rest) =>
    match openingTag? t with
    | some tag => ([], some (tag, t))
    | none => let (before, found) := splitAtTag rest; (a :: before, found)

/-- The length of a run of blanks. -/
def blankRun (t : Text) : Nat := (t.takeWhile Code.isBlank).length

/-- The length of a hyphen or plus sign at the start of a text, zero if there is none. -/
def signRun : Text → Nat
  | s :: _ => if s = '-' ∨ s = '+' then 1 else 0
  | [] => 0

/-- The length of the end of a block tag: a percent sign and a brace. A hyphen in front takes the
blanks that follow along; a plus sign is allowed if `plus` says so. -/
def blockEndRun? (plus : Bool) (t : Text) : Option Nat :=
  if t.startsWith "%\x7d" then some 2
  else if t.startsWith "-%\x7d" then some (3 + blankRun (t.drop 3))
  else if plus && t.startsWith "+%\x7d" then some 3
  else none

/-- The length of a tag that holds the one word `word`, from its delimiter on. -/
def wordTagRun? (word : Text) (plus : Bool) (t : Text) : Option Nat :=
  if t.startsWith "\x7b%" then
    let i := 2 + signRun (t.drop 2)
    let i := i + blankRun (t.drop i)
    if Text.startsWith (t.drop i) word then
      let i := i + word.length
      let i := i + blankRun (t.drop i)
      (blockEndRun? plus (t.drop i)).map (i + ·)
    else none
  else none

/-- The length of the end of a print tag. -/
def printEndRun? (t : Text) : Option Nat :=
  if t.startsWith "\x7d\x7d" then some 2
  else if t.startsWith "-\x7d\x7d" then some (3 + blankRun (t.drop 3))
  else none

/-- The length of the end of a comment. -/
def commentEndRun? (t : Text) : Option Nat :=
  if t.startsWith "#\x7d" then some 2
  else if t.startsWith "-#\x7d" then some (3 + blankRun (t.drop 3))
  else if t.startsWith "+#\x7d" then some 3
  else none

/-- The shortest beginning of a text after which `find` succeeds, and its result there. -/
def splitWhere (find : Text → Option Nat) : Text → Option (Text × Nat)
  | [] => (find []).map fun n => ([], n)
  | t@(a :: rest) =>
    match find t with
    | some n => some ([], n)
    | none => (splitWhere find rest).map fun (before, n) => (a :: before, n)

/-- Whether the delimiter at the start of a text carries a hyphen. -/
def hasHyphen (t : Text) : Bool := t[2]? == some (Code.ofChar '-')

/-- Text in front of a tag; a hyphen at the tag removes the blanks at the end. -/
def dataBefore (line : Nat) (hyphen : Bool) (t : Text) : List Token :=
  let t := if hyphen then t.trimEnd else t
  if t = [] then [] else [⟨line, .data t⟩]

/-! ## The lexer -/

/-- What is left of a source: the text, its position and its line. -/
structure Source where
  rest : Text
  position : Nat
  line : Nat
deriving Repr

namespace Source

/-- The number of line ends. -/
def lineEnds (t : Text) : Nat := t.count (Code.ofChar '\n')

/-- Passes `n` code points. -/
def advance (s : Source) (n : Nat) : Source :=
  ⟨s.rest.drop n, s.position + n, s.line + lineEnds (s.rest.take n)⟩

end Source

/-- The tokens found, and the fault that ends them. -/
abbrev Tokens := List Token × Option SourceFault

/-- Puts tokens in front. -/
def Tokens.after (ts : List Token) (rest : Tokens) : Tokens := (ts ++ rest.1, rest.2)

/-- Where the lexer is: in text, or in a tag with the brackets that are open. -/
inductive Mode
  | text
  | tag (print : Bool) (brackets : List Mark)
deriving Repr

/-- The length and the text of a string literal at the start of a text. -/
def literalRun? (q : Code) : Text → Option Text
  | [] => none
  | c :: rest =>
    if c = q then some []
    else if c = '\\' then
      match rest with
      | [] => none
      | d :: rest' => (literalRun? q rest').map fun t => c :: d :: t
    else (literalRun? q rest).map (c :: ·)

/-- A token inside a tag: its length and kind, or a problem. -/
def tagToken (afterDot : Bool) (s : Source) : Except SourceProblem (Nat × TokenKind) :=
  let t := s.rest
  match (if afterDot then none else floatRun? t) with
  | some (whole, part, power) => .ok (whole + part + power, .float (floatValue t whole part power))
  | none =>
    match integerRun? t with
    | some r => r.map fun (n, v) => (n, .integer v)
    | none =>
      let word := t.takeWhile Code.isWord
      if word ≠ [] then
        if Text.isName word then .ok (word.length, .name word) else .error .badName
      else
        let literal := match t with
          | q :: rest => if q = '\'' ∨ q = '"' then literalRun? q rest else none
          | [] => none
        match literal with
        | some body => do
          let value ← (unescape? body).mapError .badEscape
          return (body.length + 2, .string value)
        | none =>
          match Mark.read? t with
          | some m => .ok (m.text.length, .mark m)
          | none => .error (.unexpectedCode (t.headD default) s.position)

/-- The open brackets after a mark. -/
def nest (m : Mark) (brackets : List Mark) : Except SourceProblem (List Mark) :=
  match m.closing? with
  | some closing => .ok (closing :: brackets)
  | none =>
    if m.isClosing then
      match brackets with
      | [] => .error (.unexpectedMark m)
      | due :: outer => if due = m then .ok outer else .error (.mismatchedMark m due)
    else .ok brackets

/-- Runs the lexer; `afterDot` says that the code point before was a dot. -/
def lexFrom : Nat → Mode → (afterDot : Bool) → Source → Tokens
  | 0, _, _, _ => ([], none)
  | fuel + 1, .text, _, s =>
    match splitAtTag s.rest with
    | (t, none) => (dataBefore s.line false t, none)
    | (t, some (tag, opening)) =>
      let data := dataBefore s.line (hasHyphen opening) t
      let s' := s.advance t.length
      match tag with
      | .comment =>
        let inside := s'.advance (2 + signRun (opening.drop 2))
        match splitWhere commentEndRun? inside.rest with
        | some (body, n) =>
          Tokens.after data (lexFrom fuel .text false (inside.advance (body.length + n)))
        | none => (data, if inside.rest = [] then none else some ⟨inside.line, .openComment⟩)
      | .print =>
        let inside := s'.advance (2 + signRun (opening.drop 2))
        Tokens.after (data ++ [⟨s'.line, .printStart⟩]) (lexFrom fuel (.tag true []) false inside)
      | .block =>
        match wordTagRun? "raw" false opening with
        | some n =>
          let inside := s'.advance n
          match splitWhere (wordTagRun? "endraw" true) inside.rest with
          | some (body, n) =>
            let hyphen := hasHyphen (inside.rest.drop body.length)
            Tokens.after (data ++ dataBefore inside.line hyphen body)
              (lexFrom fuel .text false (inside.advance (body.length + n)))
          | none => (data, if inside.rest = [] then none else some ⟨inside.line, .openRaw⟩)
        | none =>
          let inside := s'.advance (2 + signRun (opening.drop 2))
          Tokens.after (data ++ [⟨s'.line, .blockStart⟩])
            (lexFrom fuel (.tag false []) false inside)
  | fuel + 1, .tag print brackets, afterDot, s =>
    if s.rest = [] then ([], none)
    else
      let ending := if brackets ≠ [] then none
        else if print then printEndRun? s.rest else blockEndRun? true s.rest
      match ending with
      | some n =>
        Tokens.after [⟨s.line, if print then .printEnd else .blockEnd⟩]
          (lexFrom fuel .text false (s.advance n))
      | none =>
        let blanks := blankRun s.rest
        if blanks > 0 then lexFrom fuel (.tag print brackets) false (s.advance blanks)
        else
          match tagToken afterDot s with
          | .error p => ([], some ⟨s.line, p⟩)
          | .ok (n, kind) =>
            let continued (brackets : List Mark) : Tokens :=
              Tokens.after [⟨s.line, kind⟩]
                (lexFrom fuel (.tag print brackets) (kind == .mark .dot) (s.advance n))
            match kind with
            | .mark m =>
              match nest m brackets with
              | .ok brackets => continued brackets
              | .error p => ([], some ⟨s.line, p⟩)
            | _ => continued brackets

/-- The tokens of a source, in which all line ends count as line feeds. -/
def tokens (source : Text) : Tokens :=
  let t := source.universalNewlines
  lexFrom (t.length + 2) .text false ⟨t, 0, 1⟩

end ThemeForge.Template

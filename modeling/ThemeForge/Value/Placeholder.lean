import ThemeForge.Value.Printer

/-!
# Placeholders

A text with placeholders such as `%s` or `%05d` is filled from a value: the items of a tuple one
after the other, the entries of a mapping by the names in parentheses after the percent sign, or
else the value itself.

* `Placeholder`: flags, width, precision and the letter of the conversion;
* `Placeholder.fill?`: the filled text; `Placeholder.Fault` says why there is none.
-/

namespace ThemeForge

/-- A placeholder. -/
structure Placeholder where
  key : Option Text
  flags : Text
  width : Nat
  precision : Option Nat
  letter : Code
deriving DecidableEq, Repr

namespace Placeholder

/-- Why a text cannot be filled. -/
inductive Fault
  | incomplete
  | incompleteKey
  | tooFew
  | tooMany
  | needsMapping
  | missingKey (key : Text)
  | needsNumber (letter : Code) (kind : Text)
  | needsInteger (letter : Code) (kind : Text)
  | needsReal (kind : Text)
  | needsCharacter
  | unknownLetter (letter : Code) (position : Nat)
deriving DecidableEq, Repr

/-- The wording of a fault. -/
def Fault.message : Fault → Text
  | .incomplete => "incomplete format"
  | .incompleteKey => "incomplete format key"
  | .tooFew => "not enough arguments for format string"
  | .tooMany => "not all arguments converted during string formatting"
  | .needsMapping => "format requires a mapping"
  | .missingKey key => key.quote
  | .needsNumber letter kind =>
    Text.concat ["%", [letter], " format: a real number is required, not ", kind]
  | .needsInteger letter kind =>
    Text.concat ["%", [letter], " format: an integer is required, not ", kind]
  | .needsReal kind => Text.concat ["must be real number, not ", kind]
  | .needsCharacter => "%c requires int or char"
  | .unknownLetter letter position =>
    Text.concat ["unsupported format character '", [letter], "' (0x", Text.ofNatBase 16 letter.val,
      ") at index ", Text.ofNat position]

/-- Whether a flag was given. -/
def has (p : Placeholder) (flag : Code) : Bool := p.flags.contains flag

/-! ## Conversions -/

/-- Fills a field up to its width with blanks. -/
def padded (p : Placeholder) (t : Text) : Text :=
  let fill : Text := List.replicate (p.width - t.length) (Code.ofChar ' ')
  if p.has '-' then t ++ fill else fill ++ t

/-- The sign in front of a number. -/
def sign (p : Placeholder) (negative : Bool) : Text :=
  if negative then "-" else if p.has '+' then "+" else if p.has ' ' then " " else ""

/-- A number from its sign and its digits; zeros fill the width if asked for. -/
def numeric (p : Placeholder) (negative : Bool) (announcement digits : Text) : Text :=
  let front := p.sign negative ++ announcement
  if p.has '0' && !p.has '-' then
    front ++ Text.padLeft (p.width - front.length) '0' digits
  else p.padded (front ++ digits)

/-- An integer in a base. -/
def integer (p : Placeholder) (base : Nat) (n : Int) : Text :=
  let digits := Text.padLeft (p.precision.getD 1) '0' (Text.ofNatBase base n.natAbs)
  let announcement : Text :=
    if !p.has '#' || base = 10 then "" else if base = 8 then "0o" else "0x"
  let t := p.numeric (n < 0) announcement digits
  if p.letter = 'X' then t.upper else t

/-- A double with a fixed number of digits after the point, a tie going to the even neighbour. -/
def fixed (p : Placeholder) (d : Double) : Text :=
  let places := p.precision.getD 6
  match d.view with
  | .nan => p.padded (p.sign false ++ ("nan" : Text))
  | .infinite negative => p.padded (p.sign negative ++ ("inf" : Text))
  | .finite negative m e =>
    let num := m * Nat.pow 10 places * Nat.pow 2 e.toNat
    let den := Nat.pow 2 (-e).toNat
    let n := Double.roundEven (num / den) (num % den) den
    let whole := Text.ofNat (n / Nat.pow 10 places)
    let part := Text.padLeft places '0' (Text.ofNat (n % Nat.pow 10 places))
    p.numeric negative [] (if places = 0 then whole else Text.concat [whole, ".", part])

/-- A text, cut to the precision. -/
def shown (p : Placeholder) (t : Text) : Text :=
  p.padded (match p.precision with
    | some n => t.take n
    | none => t)

/-- The quoted form in which code points beyond ASCII are given by number. -/
def asciiQuoted (v : Value) : Text :=
  v.quoted.flatMap fun c => if c.val < 0x80 then [c] else c.numbered

/-- The value in place of a placeholder at a position. -/
def convert? (p : Placeholder) (position : Nat) (v : Value) : Except Fault Text :=
  let inBase (base : Nat) : Except Fault Text :=
    match v with
    | .bool b => .ok (p.integer base (if b then 1 else 0))
    | .int n => .ok (p.integer base n)
    | .float d =>
      match (if base = 10 then d.truncate? else none) with
      | some n => .ok (p.integer base n)
      | none => .error (.needsInteger p.letter v.kind)
    | _ => .error (if base = 10 then .needsNumber p.letter v.kind
        else .needsInteger p.letter v.kind)
  if p.letter = 's' then .ok (p.shown v.plain)
  else if p.letter = 'r' then .ok (p.shown v.quoted)
  else if p.letter = 'a' then .ok (p.shown (asciiQuoted v))
  else if p.letter = 'd' ∨ p.letter = 'i' ∨ p.letter = 'u' then inBase 10
  else if p.letter = 'o' then inBase 8
  else if p.letter = 'x' ∨ p.letter = 'X' then inBase 16
  else if p.letter = 'f' ∨ p.letter = 'F' then
    match v with
    | .bool b => .ok (p.fixed (.ofInt (if b then 1 else 0)))
    | .int n => .ok (p.fixed (.ofInt n))
    | .float d => .ok (p.fixed d)
    | _ => .error (.needsReal v.kind)
  else if p.letter = 'c' then
    match v with
    | .text [c] => .ok (p.padded [c])
    | .int n => .ok (p.padded [Code.ofNat n.toNat])
    | _ => .error .needsCharacter
  else .error (.unknownLetter p.letter position)

/-! ## Filling -/

/-- The flags of placeholders. -/
def isFlag (c : Code) : Bool := c == '-' || c == '+' || c == ' ' || c == '#' || c == '0'

/-- What the placeholders are filled from: values one after the other, and entries by name. -/
structure Source where
  items : List Value
  entries : Option Value.Mapping
deriving Repr

/-- What a value fills placeholders with. -/
def Source.ofValue : Value → Source
  | .tuple items => ⟨items, none⟩
  | .mapping m => ⟨[.mapping m], some m⟩
  | v => ⟨[v], none⟩

/-- Whether a value need not be used up: collections may be looked into by name. -/
def Source.isOptional : Value → Bool
  | .mapping _ => true
  | .list _ => true
  | .bytes _ => true
  | _ => false

/-- The key in parentheses at the start of a text, parentheses inside being balanced; its length
counts both parentheses. -/
def key? : Nat → Text → Option Text
  | _, [] => none
  | nested, c :: rest =>
    if c = '(' then (key? (nested + 1) rest).map (c :: ·)
    else if c = ')' then
      match nested with
      | 0 => some []
      | n + 1 => (key? n rest).map (c :: ·)
    else (key? nested rest).map (c :: ·)

/-- Reads a placeholder after its percent sign: the placeholder and its length. -/
def read? (t : Text) : Except Fault (Placeholder × Nat) :=
  let keyed : Except Fault (Option Text × Nat) :=
    match t with
    | c :: rest =>
      if c = '(' then
        match key? 0 rest with
        | some k => .ok (some k, k.length + 2)
        | none => .error .incompleteKey
      else .ok (none, 0)
    | [] => .ok (none, 0)
  do
    let (key, n) ← keyed
    let flags := (t.drop n).takeWhile isFlag
    let n := n + flags.length
    let width := (t.drop n).takeWhile Code.isDigit
    let n := n + width.length
    let point := (t.drop n).head? == some (Code.ofChar '.')
    let places := if point then (t.drop (n + 1)).takeWhile Code.isDigit else []
    let n := if point then n + 1 + places.length else n
    let rest := t.drop n
    let long := rest.takeWhile fun c => c == Code.ofChar 'h' || c == 'l' || c == 'L'
    let n := n + (long.take 1).length
    match t.drop n with
    | [] => throw .incomplete
    | c :: _ =>
      let precision := if point then some (Text.toNat places) else none
      return (⟨key, flags, Text.toNat width, precision, c⟩, n + 1)

/-- Fills the placeholders of a text that starts at a position; `used` counts the items used. -/
def fillFrom? (source : Source) : Nat → (position used : Nat) → Text →
    Except Fault (Text × Nat)
  | 0, _, used, _ => .ok ([], used)
  | _, _, used, [] => .ok ([], used)
  | fuel + 1, position, used, c :: rest =>
    if c ≠ '%' then do
      let (t, n) ← fillFrom? source fuel (position + 1) used rest
      return (c :: t, n)
    else do
      let (p, length) ← read? rest
      let after := rest.drop length
      let next := position + 1 + length
      if p.letter = '%' then
        let (t, n) ← fillFrom? source fuel next used after
        return ('%' :: t, n)
      else
        match p.key with
        | some key =>
          match source.entries with
          | none => throw .needsMapping
          | some m =>
            match Value.Mapping.getText? m key with
            | none => throw (.missingKey key)
            | some v =>
              let shown ← p.convert? (next - 1) v
              let (t, n) ← fillFrom? source fuel next used after
              return (shown ++ t, n)
        | none =>
          match source.items[used]? with
          | none => throw .tooFew
          | some v =>
            let shown ← p.convert? (next - 1) v
            let (t, n) ← fillFrom? source fuel next (used + 1) after
            return (shown ++ t, n)

/-- Fills the placeholders of a text from a value, which must be used up unless it is a
collection that can be looked into. -/
def fill? (t : Text) (v : Value) : Except Fault Text := do
  let source := Source.ofValue v
  let (filled, used) ← fillFrom? source (t.length + 1) 0 0 t
  if used < source.items.length && !Source.isOptional v then throw .tooMany
  else return filled

end Placeholder

end ThemeForge

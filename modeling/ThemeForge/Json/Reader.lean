import ThemeForge.Json.StringBody
import ThemeForge.Value.Basic

/-!
# Reading JSON

A strict reader for JSON documents. A number with a point or an exponent is a double, any other an
integer; a later entry of an object replaces an earlier one of the same key.

* `Json.readValue?`: a value at the start of a text, and what follows;
* `Json.parse?`: the value of a whole document.
-/

namespace ThemeForge.Json

/-- The white space of JSON. -/
def isSpace (c : Code) : Bool := c == ' ' || c == '\t' || c == '\n' || c == '\r'

/-- Drops white space. -/
def skipSpace (t : Text) : Text := t.dropWhile isSpace

/-- A run of digits, and what follows. -/
def digits (t : Text) : Text × Text := t.span Code.isDigit

/-- The digits of a fraction, if there is one, and what follows; the fraction must not be empty. -/
def fraction? : Text → Option (Option Text × Text)
  | c :: rest =>
    if c = '.' then
      let (ds, rest') := digits rest
      if ds = [] then none else some (some ds, rest')
    else some (none, c :: rest)
  | [] => some (none, [])

/-- A sign, if there is one, and what follows. -/
def sign : Text → Bool × Text
  | c :: rest => if c = '-' then (true, rest) else if c = '+' then (false, rest)
                 else (false, c :: rest)
  | [] => (false, [])

/-- The value of an exponent, if there is one, and what follows. -/
def exponent? : Text → Option (Option Int × Text)
  | c :: rest =>
    if c = 'e' ∨ c = 'E' then
      let (negative, rest') := sign rest
      let (ds, rest'') := digits rest'
      if ds = [] then none
      else some (some (if negative then -(Text.toNat ds : Int) else Text.toNat ds), rest'')
    else some (none, c :: rest)
  | [] => some (none, [])

/-- A number without its sign, and what follows. -/
def readMagnitude? (negative : Bool) (t : Text) : Option (Value × Text) := do
  let (whole, rest) := digits t
  if whole = [] ∨ (whole.length > 1 ∧ whole.headD '0' = '0') then none
  else
    let (part, rest) ← fraction? rest
    let (power, rest) ← exponent? rest
    if part.isNone && power.isNone then
      let n : Int := Text.toNat whole
      return (.int (if negative then -n else n), rest)
    else
      let tail := part.getD []
      return (.float (.ofDecimal negative (Text.toNat (whole ++ tail))
        (power.getD 0 - tail.length)), rest)

/-- A number, and what follows. -/
def readNumber? : Text → Option (Value × Text)
  | c :: rest => if c = '-' then readMagnitude? true rest else readMagnitude? false (c :: rest)
  | [] => none

/-- A word with a fixed value. -/
def readWord? (word : Text) (v : Value) (t : Text) : Option (Value × Text) :=
  (Text.after? word t).map fun rest => (v, rest)

/-- The text at the start of a literal, and what follows. -/
def readLiteral? : Text → Option (Text × Text)
  | c :: rest => if c = '"' then readBody? rest else none
  | [] => none

mutual

/-- A value, and what follows. -/
def readValueWith? : Nat → Text → Option (Value × Text)
  | 0, _ => none
  | fuel + 1, t =>
    match skipSpace t with
    | [] => none
    | c :: rest =>
      if c = '"' then do
        let (s, rest) ← readBody? rest
        return (.text s, rest)
      else if c = '[' then
        match skipSpace rest with
        | d :: rest' =>
          if d = ']' then some (.list [], rest')
          else do
            let (items, rest) ← readItemsWith? fuel (d :: rest')
            return (.list items, rest)
        | [] => none
      else if c = '\x7b' then
        match skipSpace rest with
        | d :: rest' =>
          if d = '\x7d' then some (.mapping [], rest')
          else do
            let (entries, rest) ← readEntriesWith? fuel [] (d :: rest')
            return (.mapping entries, rest)
        | [] => none
      else if c = 't' then readWord? "true" (.bool true) (c :: rest)
      else if c = 'f' then readWord? "false" (.bool false) (c :: rest)
      else if c = 'n' then readWord? "null" .null (c :: rest)
      else readNumber? (c :: rest)

/-- One or more items up to the closing bracket, and what follows. -/
def readItemsWith? : Nat → Text → Option (List Value × Text)
  | 0, _ => none
  | fuel + 1, t => do
    let (v, rest) ← readValueWith? fuel t
    match skipSpace rest with
    | c :: rest' =>
      if c = ',' then do
        let (items, rest) ← readItemsWith? fuel rest'
        return (v :: items, rest)
      else if c = ']' then some ([v], rest')
      else none
    | [] => none

/-- One or more entries after those of `m`, up to the closing brace, and what follows. -/
def readEntriesWith? : Nat → Value.Mapping → Text → Option (Value.Mapping × Text)
  | 0, _, _ => none
  | fuel + 1, m, t => do
    let (key, rest) ← readLiteral? (skipSpace t)
    match skipSpace rest with
    | colon :: rest' =>
      if colon = ':' then do
        let (v, rest) ← readValueWith? fuel rest'
        let m := m.put (.text key) v
        match skipSpace rest with
        | c :: rest' =>
          if c = ',' then readEntriesWith? fuel m rest'
          else if c = '\x7d' then some (m, rest')
          else none
        | [] => none
      else none
    | [] => none

end

/-- A value at the start of a text, and what follows. -/
def readValue? (t : Text) : Option (Value × Text) := readValueWith? (t.length + 1) t

/-- The value of a document; nothing but white space may follow it. -/
def parse? (t : Text) : Option Value := do
  let (v, rest) ← readValue? t
  if skipSpace rest = [] then some v else none

end ThemeForge.Json

import ThemeForge.Text.Code

/-!
# Implicit tags

A plain scalar without a tag is resolved by its look: as a null, a boolean, an integer, a float, a
timestamp, one of the special keys, or else a text.

* `Yaml.Tag`: the standard tags, and any other;
* `Yaml.resolve`: the tag of a plain scalar.
-/

namespace ThemeForge.Yaml

/-- A resolved tag. -/
inductive Tag
  | null
  | bool
  | int
  | float
  | binary
  | timestamp
  | text
  | sequence
  | mapping
  | set
  | orderedMapping
  | pairs
  | merge
  | value
  | other
deriving DecidableEq, Repr

/-- What the standard tags start with. -/
def standardTag : Text := "tag:yaml.org,2002:"

/-- The tag of a full tag name. -/
def Tag.ofName (name : Text) : Tag :=
  match Text.after? standardTag name with
  | none => .other
  | some kind =>
    if kind = "null" then .null else if kind = "bool" then .bool else if kind = "int" then .int
    else if kind = "float" then .float else if kind = "binary" then .binary
    else if kind = "timestamp" then .timestamp else if kind = "str" then .text
    else if kind = "seq" then .sequence else if kind = "map" then .mapping
    else if kind = "set" then .set else if kind = "omap" then .orderedMapping
    else if kind = "pairs" then .pairs else if kind = "merge" then .merge
    else if kind = "value" then .value else .other

/-! ## Recognisers -/

/-- A text without a line feed at its end, which recognisers pass over; a line feed by itself is
not passed over. -/
def withoutFeed (t : Text) : Text :=
  if 2 ≤ t.length ∧ t.getLast? = some (Code.ofChar '\n') then t.dropLast else t

/-- A digit or an underscore. -/
def isDigitOrBar (c : Code) : Bool := c.isDigit || c == '_'

/-- What follows an optional sign. -/
def afterSign : Text → Text
  | c :: rest => if c = '+' ∨ c = '-' then rest else c :: rest
  | [] => []

/-- A non-empty text of the code points in `p`. -/
def isRun (p : Code → Bool) (t : Text) : Bool := t ≠ [] && t.all p

/-- One or more groups of a colon and a number below 60, up to the end. -/
def isSixties : Text → Bool
  | colon :: a :: rest =>
    colon == ':' && a.isDigit &&
      match rest with
      | [] => true
      | b :: rest' =>
        if b.isDigit then a.val ≤ 53 && (rest' = [] || isSixties rest')
        else isSixties (b :: rest')
  | _ => false

/-- Spells an integer: binary, octal, decimal, hexadecimal or in base sixty. -/
def looksInteger (t : Text) : Bool :=
  match afterSign t with
  | [] => false
  | a :: rest =>
    if a = '0' then
      rest = [] || isRun (fun c => c.octalValue?.isSome || c == '_') rest
        || (match rest with
            | b :: ds =>
              (b == 'b' && isRun (fun c => c == '0' || c == '1' || c == '_') ds)
                || (b == 'x' && isRun (fun c => c.hexValue?.isSome || c == '_') ds)
            | [] => false)
    else
      a.isDigit && (let tail := rest.dropWhile isDigitOrBar; tail = [] || isSixties tail)

/-- An exponent with its sign, or nothing. -/
def isExponent : Text → Bool
  | [] => true
  | e :: s :: ds => (e == 'e' || e == 'E') && (s == '-' || s == '+') && isRun Code.isDigit ds
  | _ => false

/-- A fraction after the whole part in base ten or sixty. -/
def looksFraction (sixties : Bool) : Text → Bool
  | [] => false
  | c :: rest =>
    c == '.' &&
      let tail := rest.dropWhile isDigitOrBar
      if sixties then tail = [] else isExponent tail

/-- The groups of a colon and a number below 60 at the start of a text, at least one, and what
follows; the longest run of groups that a point follows. -/
def afterSixties? : Nat → Text → Option Text
  | 0, _ => none
  | fuel + 1, colon :: a :: rest =>
    if colon = ':' ∧ a.isDigit then
      let rest := match rest with
        | b :: rest' => if a.val ≤ 53 ∧ b.isDigit then rest' else rest
        | [] => rest
      if rest.head? = some (Code.ofChar '.') then some rest else afterSixties? fuel rest
    else none
  | _, _ => none

/-- The words for infinity, without sign. -/
def infinityWords : List Text := [".inf", ".Inf", ".INF"]

/-- The words for what is not a number. -/
def nanWords : List Text := [".nan", ".NaN", ".NAN"]

/-- Spells a float: with a point, in base ten or sixty, or one of the special words. -/
def looksFloat (t : Text) : Bool :=
  let body := afterSign t
  let special := infinityWords.contains body || nanWords.contains t
  special ||
    match body with
    | a :: rest =>
      if a.isDigit then
        let tail := rest.dropWhile isDigitOrBar
        looksFraction false tail
          || (match afterSixties? t.length tail with
              | some tail => looksFraction true tail
              | none => false)
      else
        match t with
        | p :: d :: rest => p == '.' && d.isDigit && isExponent (rest.dropWhile isDigitOrBar)
        | _ => false
    | [] => false

/-- The parts of a spelled timestamp. -/
structure Stamp where
  year : Text
  month : Text
  day : Text
  time : Option (Text × Text × Text × Text)
  zone : Option (Option (Bool × Text × Text))
deriving Repr

/-- Between `least` and two digits, and what follows. -/
def fewDigits? (least : Nat) (t : Text) : Option (Text × Text) :=
  let ds := (t.take 2).takeWhile Code.isDigit
  if ds.length < least then none else some (ds, t.drop ds.length)

/-- What follows a code point. -/
def past? (c : Code) : Text → Option Text
  | a :: rest => if a = c then some rest else none
  | [] => none

/-- A space or a tab. -/
def isGap (c : Code) : Bool := c == ' ' || c == '\t'

/-- The zone of a timestamp: universal time, or a sign with hours and minutes. -/
def zone? (t : Text) : Option (Option (Option (Bool × Text × Text))) :=
  match t.dropWhile isGap with
  | [] => if t = [] then some none else none
  | c :: rest =>
    if c = 'Z' then (if rest = [] then some (some none) else none)
    else if c = '+' ∨ c = '-' then do
      let (hours, rest) ← fewDigits? 1 rest
      let minutes ← if rest = [] then some [] else do
        let (m, rest) ← fewDigits? 2 (← past? ':' rest)
        if rest = [] then some m else none
      return some (some (c == '-', hours, minutes))
    else none

/-- The time of a timestamp and its zone. -/
def time? (t : Text) :
    Option ((Text × Text × Text × Text) × Option (Option (Bool × Text × Text))) := do
    let (hour, rest) ← fewDigits? 1 t
    let (minute, rest) ← fewDigits? 2 (← past? ':' rest)
    let (second, rest) ← fewDigits? 2 (← past? ':' rest)
    let (fraction, rest) := match past? '.' rest with
      | some rest => rest.span Code.isDigit
      | none => ([], rest)
    return ((hour, minute, second, fraction), ← zone? rest)

/-- The parts of a timestamp: a day, and perhaps a time after a letter `T` or blanks. -/
def stamp? (t : Text) : Option Stamp := do
  let (y1, rest) ← fewDigits? 2 t
  let (y2, rest) ← fewDigits? 2 rest
  let (month, rest) ← fewDigits? 1 (← past? '-' rest)
  let (day, rest) ← fewDigits? 1 (← past? '-' rest)
  match rest with
  | [] => return ⟨y1 ++ y2, month, day, none, none⟩
  | c :: after =>
    let start ←
      if c = 'T' ∨ c = 't' then some after
      else if c = ' ' ∨ c = '\t' then some (rest.dropWhile isGap)
      else none
    let (time, zone) ← time? start
    return ⟨y1 ++ y2, month, day, some time, zone⟩

/-- Spells a timestamp; a day alone needs two digits for month and day. -/
def looksTimestamp (t : Text) : Bool :=
  match stamp? t with
  | some s => s.time.isSome || (s.month.length == 2 && s.day.length == 2)
  | none => false

/-- The words for booleans. -/
def booleanWords : List Text :=
  ["yes", "Yes", "YES", "no", "No", "NO", "true", "True", "TRUE", "false", "False", "FALSE",
    "on", "On", "ON", "off", "Off", "OFF"]

/-- The words for null. -/
def nullWords : List Text := ["", "~", "null", "Null", "NULL"]

/-- Indicators by themselves, which stand for nothing. -/
def indicatorWords : List Text := ["!", "&", "*"]

/-- The tag of a line by its look. -/
def resolveLine (t : Text) : Tag :=
  if booleanWords.contains t then .bool
  else if looksFloat t then .float
  else if looksInteger t then .int
  else if t = "<<" then .merge
  else if nullWords.contains t then .null
  else if looksTimestamp t then .timestamp
  else if t = "=" then .value
  else if indicatorWords.contains t then .other
  else .text

/-- The tag of a plain scalar, or of any other that asks for it. -/
def resolve (t : Text) : Tag := resolveLine (withoutFeed t)

end ThemeForge.Yaml

import ThemeForge.Number.Double
import ThemeForge.Text.Blank
import ThemeForge.Text.Case

/-!
# Numerals

Reading integers and floating-point numbers from free text: blanks around the numeral, a sign, and
single underscores between digits are allowed; the float reader also knows the words for infinity
and for what is not a number.

* `Numeral.readInt?`: an integer in a given base, with its letter in front if there is one;
* `Numeral.readFloat?`: a floating-point number.
-/

namespace ThemeForge.Numeral

/-- The digits of a run in which single underscores may stand between digits; `after` says that a
digit was just read. -/
def plainDigits? (isDigit : Code → Bool) (after : Bool) : Text → Option Text
  | [] => if after then some [] else none
  | c :: rest =>
    if isDigit c then (plainDigits? isDigit true rest).map (c :: ·)
    else if c = '_' ∧ after then plainDigits? isDigit false rest
    else none

/-- Whether a code point is a digit in a base of at most 16. -/
def isDigitIn (base : Nat) (c : Code) : Bool :=
  match c.hexValue? with
  | some v => v < base
  | none => false

/-- The value of digits in a base. -/
def digitsValue (base : Nat) (ds : Text) : Nat :=
  ds.foldl (fun n c => base * n + (c.hexValue?).getD 0) 0

/-- The letter after the zero that announces a base. -/
def baseLetters (base : Nat) : Text :=
  if base = 2 then "bB" else if base = 8 then "oO" else if base = 16 then "xX" else ""

/-- A text without the announcement of its base; an underscore may follow the announcement. -/
def dropBase (base : Nat) : Text → Text
  | z :: l :: rest =>
    if z = '0' ∧ (baseLetters base).contains l then
      match rest with
      | u :: rest' => if u = '_' then rest' else rest
      | [] => []
    else z :: l :: rest
  | t => t

/-- A sign, if there is one: whether it is a minus, and what follows. -/
def splitSign : Text → Bool × Text
  | c :: rest =>
    if c = '-' then (true, rest) else if c = '+' then (false, rest) else (false, c :: rest)
  | [] => (false, [])

/-- The sign and the digits of an integer in a base. -/
def readDigits? (base : Nat) (t : Text) : Option (Bool × Text) :=
  let (negative, body) := splitSign t.trim
  (plainDigits? (isDigitIn base) false (dropBase base body)).map fun ds => (negative, ds)

/-- An integer in a base. -/
def readInt? (base : Nat) (t : Text) : Option Int :=
  (readDigits? base t).map fun (negative, ds) =>
    let n : Int := digitsValue base ds
    if negative then -n else n

/-- The exponent at the end of a float, zero when there is none. -/
def readExponent? : Text → Option Int
  | [] => some 0
  | c :: rest =>
    if c = 'e' ∨ c = 'E' then
      let (negative, body) := splitSign rest
      (plainDigits? Code.isDigit false body).map fun ds =>
        if negative then -(Text.toNat ds : Int) else Text.toNat ds
    else none

/-- A digit or an underscore. -/
def isDigitOrBar (c : Code) : Bool := c.isDigit || c == '_'

/-- The digits of a run that may be empty. -/
def optionalDigits? (t : Text) : Option Text :=
  if t = [] then some [] else plainDigits? Code.isDigit false t

/-- A floating-point number in decimal notation without sign. -/
def readDecimal? (negative : Bool) (t : Text) : Option Double := do
  let (whole, rest) := t.span isDigitOrBar
  let (part, rest) := match rest with
    | c :: after => if c = '.' then after.span isDigitOrBar else ([], rest)
    | [] => ([], [])
  let whole ← optionalDigits? whole
  let part ← optionalDigits? part
  if whole = [] ∧ part = [] then none
  else
    let e ← readExponent? rest
    return .ofDecimal negative (Text.toNat (whole ++ part)) (e - part.length)

/-- A floating-point number. -/
def readFloat? (t : Text) : Option Double :=
  let (negative, body) := splitSign t.trim
  let word := body.lower
  if word = "inf" ∨ word = "infinity" then some (.infinity negative)
  else if word = "nan" then some .nan
  else readDecimal? negative body

end ThemeForge.Numeral

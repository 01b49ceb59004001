import ThemeForge.Schema.Checked
import ThemeForge.Text.Blank

/-!
# Coercions

Which values count as a text, a boolean or an integer. Texts and byte strings may spell a boolean
or an integer, booleans count as integers, and doubles without a fraction as well.

* `Value.checkText`, `Value.checkFlag`, `Value.checkInteger`: the coercions;
* `Numeral.integer?`: the integers that a text may spell.
-/

namespace ThemeForge

namespace Numeral

/-- Drops zeros, and underscores among them, in front of a numeral that starts with a zero. One
code point is left if nothing else follows, and a zero stays in front of a point. -/
def dropZerosAfter (last : Code) : Text → Text
  | [] => [last]
  | c :: rest =>
    if c = '0' ∨ c = '_' then dropZerosAfter c rest
    else if c = '.' then last :: c :: rest
    else c :: rest

/-- A numeral without needless zeros in front. -/
def dropZeros : Text → Text
  | c :: rest => if c = '0' then dropZerosAfter c rest else c :: rest
  | [] => []

/-- A numeral without a fraction that consists of zeros. -/
def dropFraction (t : Text) : Text :=
  let tail := (t.dropWhile (· != Code.ofChar '.')).drop 1
  if tail ≠ [] ∧ tail.all (· == '0') then t.before '.' else t

/-- The digits of a numeral, in which single underscores may stand between digits. -/
def digits? : Text → Option Text
  | [] => none
  | [c] => if c.isDigit then some [c] else none
  | c :: d :: rest =>
    if c.isDigit then
      if d = '_' then
        match rest with
        | [] => none
        | e :: _ => if e.isDigit then (digits? rest).map (c :: ·) else none
      else (digits? (d :: rest)).map (c :: ·)
    else none

/-- The most digits of a numeral; a minus counts as one. -/
def maxLength : Nat := 4300

/-- The magnitude that a numeral spells after its sign. -/
def magnitude? (negative : Bool) (t : Text) : Option (Except Problem.Cause Nat) :=
  (digits? (dropFraction (dropZeros t))).map fun ds =>
    if ds.length + negative.toNat > maxLength then .error .integerTooLong
    else .ok (Text.toNat ds)

/-- The integer a text spells: white space around it, one sign, zeros in front, single underscores
between digits and a fraction of zeros are allowed. -/
def integer? (t : Text) : Except Problem.Cause Int :=
  let t := Text.trimOf Code.isWhiteSpace t
  let (negative, body) := match t with
    | c :: rest => if c = '-' then (true, rest) else if c = '+' then (false, rest) else (false, t)
    | [] => (false, [])
  match magnitude? negative body with
  | some (.ok n) => .ok (if negative then -(n : Int) else n)
  | some (.error cause) => .error cause
  | none => .error .unreadableInteger

end Numeral

namespace Value

/-- A text; byte strings in UTF-8 count as texts. -/
def checkText : Value → Checked Text
  | .text t => .valid t
  | .bytes b =>
    match Utf8.decode? b with
    | .ok t => .valid t
    | .error _ => Checked.fail .textNotUnicode
  | _ => Checked.fail .notText

/-- ASCII letters in lower case. -/
def foldAscii (t : Text) : Text :=
  t.map fun c => if 65 ≤ c.val ∧ c.val ≤ 90 then Code.ofNat (c.val + 32) else c

/-- The boolean a word spells, in any case. -/
def spelledFlag? (t : Text) : Option Bool :=
  let word := foldAscii t
  if word ∈ (["1", "true", "t", "yes", "y", "on"] : List Text) then some true
  else if word ∈ (["0", "false", "f", "no", "n", "off"] : List Text) then some false
  else none

/-- The boolean that a text or byte string spells. -/
def checkFlagWord (t : Text) : Checked Bool :=
  if t.any fun c => decide c.IsSurrogate then Checked.fail .textNotUnicode
  else match spelledFlag? t with
    | some b => .valid b
    | none => Checked.fail .unreadableBoolean

/-- Whether an integer fits into 64 bits. -/
def fits64 (n : Int) : Bool := -(Nat.pow 2 63 : Int) ≤ n && n < (Nat.pow 2 63 : Int)

/-- The integer that a double is, if it is one strictly between the bounds of 64 bits. -/
def integerOf? (d : Double) : Option Int :=
  d.toInt?.filter fun n => -(Nat.pow 2 63 : Int) < n && n < (Nat.pow 2 63 : Int)

/-- A boolean: the numbers 0 and 1 and some words count as booleans. -/
def checkFlag : Value → Checked Bool
  | .bool b => .valid b
  | .int n =>
    if n = 1 then .valid true
    else if n = 0 then .valid false
    else Checked.fail (if fits64 n then .unreadableBoolean else .notBoolean)
  | .float d =>
    match integerOf? d with
    | some n =>
      if n = 1 then .valid true
      else if n = 0 then .valid false
      else Checked.fail .unreadableBoolean
    | none => Checked.fail .notBoolean
  | .text t => checkFlagWord t
  | .bytes b =>
    match Utf8.decode? b with
    | .ok t => checkFlagWord t
    | .error _ => Checked.fail .unreadableBoolean
  | _ => Checked.fail .notBoolean

/-- The integer that a text or byte string spells. -/
def checkNumeral (t : Text) : Checked Int :=
  if t.any fun c => decide c.IsSurrogate then Checked.fail .textNotUnicode
  else match Numeral.integer? t with
    | .ok n => .valid n
    | .error cause => Checked.fail cause

/-- An integer: booleans, doubles without a fraction and numerals count as integers. -/
def checkInteger : Value → Checked Int
  | .bool b => .valid (if b then 1 else 0)
  | .int n => .valid n
  | .float d =>
    match d.view with
    | .finite _ _ _ =>
      match d.toInt?, integerOf? d with
      | none, _ => Checked.fail .fractionalNumber
      | some _, none => Checked.fail .integerTooLong
      | some _, some n => .valid n
    | _ => Checked.fail .infiniteNumber
  | .text t => checkNumeral t
  | .bytes b =>
    match Utf8.decode? b with
    | .ok t => checkNumeral t
    | .error _ => Checked.fail .unreadableInteger
  | _ => Checked.fail .notInteger

/-- A mapping from texts to texts. -/
def checkTextEntries : Value.Mapping → Checked (List (Text × Text))
  | [] => .valid []
  | (k, v) :: rest =>
    let key := checkText k
    let name := match k with
      | .text t => t
      | _ => []
    ((key.map Prod.mk).ap (v.checkText.under name)).map List.cons |>.ap (checkTextEntries rest)

/-- A mapping from texts to texts. -/
def checkTextMap : Value → Checked (List (Text × Text))
  | .mapping m => checkTextEntries m
  | _ => Checked.fail .notMapping

end Value

end ThemeForge

/-!
# Text as code points

A text is a list of code points. Lone surrogates are ordinary members: file names and terminal
input may hold bytes that no encoding explains, and they travel as surrogates until something has
to be written down.

* `Code`, `Text`: the types, with coercions from `Char` and `String`;
* `Code.IsSurrogate`, `Code.IsHigh`, `Code.IsLow`: the code points that UTF-8 cannot encode;
* splitting, joining and searching (`Text.splitOn`, `Text.replaceAll`), order
  (`Text.le`) and numerals (`Text.ofNat`, `Text.ofInt`, `Text.hex`).
-/

namespace ThemeForge

/-- A Unicode code point, surrogates included. -/
structure Code where
  val : Nat
  isLt : val < 0x110000
deriving DecidableEq, Repr

namespace Code

/-- A scalar value as a code point. -/
def ofChar (c : Char) : Code := ⟨c.val.toNat, by
  rcases c.valid with h | h
  · have : c.val.toNat < 0xd800 := h
    omega
  · exact h.2⟩

instance : Coe Char Code := ⟨ofChar⟩
instance : Inhabited Code := ⟨'\x00'⟩

/-- The code point with a given number, U+FFFD when there is none. -/
def ofNat (n : Nat) : Code :=
  if h : n < 0x110000 then ⟨n, h⟩ else ⟨0xfffd, by decide⟩

/-- Surrogates stand for halves of UTF-16 pairs and are not encodable by themselves. -/
def IsSurrogate (c : Code) : Prop := 0xd800 ≤ c.val ∧ c.val ≤ 0xdfff

instance (c : Code) : Decidable c.IsSurrogate := inferInstanceAs (Decidable (_ ∧ _))

/-- The first half of a UTF-16 pair. -/
def IsHigh (c : Code) : Prop := 0xd800 ≤ c.val ∧ c.val ≤ 0xdbff

instance (c : Code) : Decidable c.IsHigh := inferInstanceAs (Decidable (_ ∧ _))

/-- The second half of a UTF-16 pair. -/
def IsLow (c : Code) : Prop := 0xdc00 ≤ c.val ∧ c.val ≤ 0xdfff

instance (c : Code) : Decidable c.IsLow := inferInstanceAs (Decidable (_ ∧ _))

/-- The character that a high and a low surrogate form. -/
def ofPair (high low : Code) : Code :=
  ofNat (0x10000 + (high.val - 0xd800) * 0x400 + (low.val - 0xdc00))

/-- An ASCII decimal digit. -/
def isDigit (c : Code) : Bool := 48 ≤ c.val && c.val ≤ 57

/-- An ASCII letter. -/
def isLetter (c : Code) : Bool := (65 ≤ c.val && c.val ≤ 90) || (97 ≤ c.val && c.val ≤ 122)

/-- The value of a hexadecimal digit of either case. -/
def hexValue? (c : Code) : Option Nat :=
  if c.isDigit then some (c.val - 48)
  else if 97 ≤ c.val && c.val ≤ 102 then some (c.val - 87)
  else if 65 ≤ c.val && c.val ≤ 70 then some (c.val - 55)
  else none

/-- The value of an octal digit. -/
def octalValue? (c : Code) : Option Nat :=
  if 48 ≤ c.val && c.val ≤ 55 then some (c.val - 48) else none

/-- The lower-case hexadecimal digit of a value below 16. -/
def hexDigit (n : Nat) : Code := ofNat (if n < 10 then 48 + n else 87 + n)

end Code

/-- A sequence of code points. -/
abbrev Text := List Code

namespace Text

/-- The text of a string literal. -/
def ofString (s : String) : Text := s.toList.map Code.ofChar

instance : Coe String Text := ⟨ofString⟩

/-! ## Numerals -/

/-- The digits of `n` in a base of at most 16, with enough fuel; the empty text for zero. -/
def digitsLoop (base : Nat) : Nat → Nat → Text → Text
  | 0, _, acc => acc
  | fuel + 1, n, acc =>
    if n = 0 then acc else digitsLoop base fuel (n / base) (Code.hexDigit (n % base) :: acc)

/-- The numeral of `n` in a base between 2 and 16. -/
def ofNatBase (base n : Nat) : Text :=
  if n = 0 then "0" else digitsLoop base (n.log2 + 1) n []

/-- The decimal numeral of `n`. -/
def ofNat (n : Nat) : Text := ofNatBase 10 n

/-- The decimal numeral of `n`, with a minus sign when negative. -/
def ofInt : Int → Text
  | .ofNat n => ofNat n
  | .negSucc n => '-' :: ofNat (n + 1)

/-- `t` with `c` in front, up to a length of `n`. -/
def padLeft (n : Nat) (c : Code) (t : Text) : Text := List.replicate (n - t.length) c ++ t

/-- The lower-case hexadecimal numeral of `n` with at least `width` digits. -/
def hex (width n : Nat) : Text := padLeft width '0' (ofNatBase 16 n)

/-- The number a run of decimal digits stands for; other code points count as digits of their
offset from zero, so callers check first. -/
def toNat (t : Text) : Nat := t.foldl (fun n c => 10 * n + (c.val - 48)) 0

/-! ## Searching and splitting -/

/-- Whether `t` starts with `p`. -/
def startsWith (t p : Text) : Bool := p.isPrefixOf t

/-- Whether `t` ends with `s`. -/
def endsWith (t s : Text) : Bool := s.isSuffixOf t

/-- What follows `p` at the start of a text. -/
def after? : (p t : Text) → Option Text
  | [], t => some t
  | _ :: _, [] => none
  | a :: p, b :: t => if a = b then after? p t else none

/-- Whether `p` occurs in `t`. -/
def occursIn (p : Text) : Text → Bool
  | [] => p.isEmpty
  | t@(_ :: rest) => startsWith t p || occursIn p rest

/-- The position of the first occurrence of `p`. -/
def find? (p : Text) : Text → Option Nat
  | [] => if p.isEmpty then some 0 else none
  | t@(_ :: rest) => if startsWith t p then some 0 else (find? p rest).map (· + 1)

/-- The pieces between the occurrences of `c`; never empty. -/
def splitOn (c : Code) : Text → List Text
  | [] => [[]]
  | a :: rest =>
    match splitOn c rest with
    | [] => [[]]
    | piece :: pieces => if a = c then [] :: piece :: pieces else (a :: piece) :: pieces

/-- What stands before the first `c`; the whole text when there is none. -/
def before (c : Code) (t : Text) : Text := t.takeWhile (· != c)

/-- The texts one after the other. -/
def concat (parts : List Text) : Text := parts.flatten

/-- The texts one after the other, separated by `sep`. -/
def join (sep : Text) : List Text → Text
  | [] => []
  | [t] => t
  | t :: rest => t ++ sep ++ join sep rest

/-- Replaces the occurrences of a non-empty `p`, left to right, at most `limit` of them; `skip`
counts the code points of an occurrence still to be passed over. -/
def replaceLoop (p r : Text) : (limit : Option Nat) → (skip : Nat) → Text → Text
  | _, _, [] => []
  | limit, skip + 1, _ :: rest => replaceLoop p r limit skip rest
  | limit, 0, t@(a :: rest) =>
    if limit ≠ some 0 && startsWith t p then
      r ++ replaceLoop p r (limit.map (· - 1)) (p.length - 1) rest
    else a :: replaceLoop p r limit 0 rest

/-- Replaces the occurrences of `p` by `r`. An empty `p` occurs before every code point and at the
end. -/
def replaceAll (p r : Text) (limit : Option Nat) (t : Text) : Text :=
  if p.isEmpty then
    match limit with
    | none => t.foldr (fun c acc => r ++ c :: acc) r
    | some n =>
      (t.take n).foldr (fun c acc => r ++ c :: acc)
        (if t.length < n then r else t.drop n)
  else replaceLoop p r limit 0 t

/-- Line ends are all written as a line feed: a carriage return, with the line feed after it if
there is one, becomes a line feed. -/
def universalNewlines : Text → Text
  | [] => []
  | a :: rest =>
    if a = '\r' then
      match rest with
      | b :: rest' => if b = '\n' then '\n' :: universalNewlines rest'
                      else '\n' :: universalNewlines (b :: rest')
      | [] => ['\n']
    else a :: universalNewlines rest

/-! ## Order -/

/-- Lexicographic order by code point. -/
def compare : Text → Text → Ordering
  | [], [] => .eq
  | [], _ :: _ => .lt
  | _ :: _, [] => .gt
  | a :: s, b :: t => if a.val < b.val then .lt else if b.val < a.val then .gt else compare s t

/-- `s` is not after `t` in lexicographic order. -/
def le (s t : Text) : Bool := compare s t != .gt

/-- `s` stands before `t` in lexicographic order. -/
def lt (s t : Text) : Bool := compare s t == .lt

end Text

end ThemeForge

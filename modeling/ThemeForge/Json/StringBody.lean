import ThemeForge.Text.Code

/-!
# The body of a JSON string

What stands between the quotes of a JSON string literal. Writing escapes the quote, the backslash,
control characters and surrogates, so that the result can be encoded; everything else stands for
itself. Reading is strict: control characters and unknown escapes are refused, and the halves of a
surrogate pair are joined.

* `Json.escape`: the body for a text;
* `Json.readBody?`: the text of a body up to its closing quote, and what follows;
* `Text.joinPairs`: every high surrogate with a low one after it becomes one character.
-/

namespace ThemeForge

/-- Every high surrogate with a low surrogate right after it becomes the character they form. -/
def Text.joinPairs : Text → Text
  | a :: b :: rest =>
    if a.IsHigh ∧ b.IsLow then Code.ofPair a b :: joinPairs rest else a :: joinPairs (b :: rest)
  | t => t

namespace Json

/-- An escape by number. -/
def numberEscape (c : Code) : Text := "\\u" ++ Text.hex 4 c.val

/-- The written form of a code point in a string body. -/
def escapeCode (c : Code) : Text :=
  if c = '"' ∨ c = '\\' then ['\\', c]
  else if c = '\n' then "\\n"
  else if c = '\r' then "\\r"
  else if c = '\t' then "\\t"
  else if c = '\x0c' then "\\f"
  else if c = '\x08' then "\\b"
  else if c.val < 0x20 ∨ c.IsSurrogate then numberEscape c
  else [c]

/-- The string body for a text. -/
def escape (t : Text) : Text := t.flatMap escapeCode

/-- The code point of an escape of one letter. -/
def letterEscape? (c : Code) : Option Code :=
  if c = '"' ∨ c = '\\' ∨ c = '/' then some c
  else if c = 'b' then some '\x08'
  else if c = 'f' then some '\x0c'
  else if c = 'n' then some '\n'
  else if c = 'r' then some '\r'
  else if c = 't' then some '\t'
  else none

/-- The code point that four hexadecimal digits name. -/
def fourDigits? (a b c d : Code) : Option Code := do
  return .ofNat ((((← a.hexValue?) * 16 + (← b.hexValue?)) * 16 + (← c.hexValue?)) * 16
    + (← d.hexValue?))

/-- Reads the code points of a body, one for each escape, up to the closing quote. -/
def readCodes? : Text → Option (Text × Text)
  | [] => none
  | q :: rest =>
    if q = '"' then some ([], rest)
    else if q = '\\' then
      match rest with
      | [] => none
      | e :: rest' =>
        if e = 'u' then
          match rest' with
          | a :: b :: c :: d :: rest'' => do
            let code ← fourDigits? a b c d
            let (codes, tail) ← readCodes? rest''
            return (code :: codes, tail)
          | _ => none
        else do
          let code ← letterEscape? e
          let (codes, tail) ← readCodes? rest'
          return (code :: codes, tail)
    else if q.val < 0x20 then none
    else do
      let (codes, tail) ← readCodes? rest
      return (q :: codes, tail)

/-- Reads a body and its closing quote: the text it stands for, and what follows the quote. -/
def readBody? (t : Text) : Option (Text × Text) := do
  let (codes, rest) ← readCodes? t
  return (codes.joinPairs, rest)

end Json

end ThemeForge

import ThemeForge.Text.Utf8

/-!
# Base 64

Reading bytes in base 64, in the tolerant form: code points outside the alphabet are passed over,
and padding ends the text as soon as it completes a group.

* `Base64.decode?`: the bytes, unless a group is left incomplete.
-/

namespace ThemeForge.Base64

/-- The value of a letter of the alphabet. -/
def value? (c : Code) : Option Nat :=
  if 65 ≤ c.val ∧ c.val ≤ 90 then some (c.val - 65)
  else if 97 ≤ c.val ∧ c.val ≤ 122 then some (c.val - 71)
  else if c.isDigit then some (c.val + 4)
  else if c = '+' then some 62 else if c = '/' then some 63 else none

/-- The bytes of a text; `held` are the bits of an incomplete group, `count` its letters, and
`pads` the padding met since the last letter. -/
def decodeFrom? (held count pads : Nat) : Text → Option Bytes
  | [] => if count = 0 then some [] else none
  | c :: rest =>
    if c = '=' then
      if 2 ≤ count ∧ 4 ≤ count + pads + 1 then some []
      else decodeFrom? held count (if 2 ≤ count then pads + 1 else pads) rest
    else
      match value? c with
      | none => decodeFrom? held count pads rest
      | some v =>
        if count = 0 then decodeFrom? v 1 0 rest
        else if count = 1 then
          (decodeFrom? (v % 16) 2 0 rest).map ((held * 4 + v / 16).toUInt8 :: ·)
        else if count = 2 then
          (decodeFrom? (v % 4) 3 0 rest).map ((held * 16 + v / 4).toUInt8 :: ·)
        else (decodeFrom? 0 0 0 rest).map ((held * 64 + v).toUInt8 :: ·)

/-- The bytes of a text in base 64. -/
def decode? (t : Text) : Option Bytes := decodeFrom? 0 0 0 t

end ThemeForge.Base64

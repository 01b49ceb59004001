import ThemeForge.Text.Code

/-!
# UTF-8

Bytes and text. Reading cuts a byte string into pieces, each a code point or a malformed span;
strict reading stops at the first malformed span, lossy reading drops them all, and escaping
reading keeps each malformed byte as a surrogate of the range U+DC80 to U+DCFF.

* `Code.utf8`, `Text.encode?`, `Text.encodeEscaped?`: writing, which refuses surrogates (in the
  second form only those that stand for no byte);
* `Utf8.pieces`, `Utf8.decode?`, `Utf8.decodeLossy`, `Utf8.decodeEscaped`: reading;
* `Utf8.EncodeFault.message`, `Utf8.DecodeFault.message`: what is reported.
-/

namespace ThemeForge

/-- A byte string. -/
abbrev Bytes := List UInt8

/-- The UTF-8 form of a code point. -/
def Code.utf8 (c : Code) : Bytes :=
  let n := c.val
  if n < 0x80 then [n.toUInt8]
  else if n < 0x800 then [(0xc0 + n / 0x40).toUInt8, (0x80 + n % 0x40).toUInt8]
  else if n < 0x10000 then
    [(0xe0 + n / 0x1000).toUInt8, (0x80 + n / 0x40 % 0x40).toUInt8, (0x80 + n % 0x40).toUInt8]
  else
    [(0xf0 + n / 0x40000).toUInt8, (0x80 + n / 0x1000 % 0x40).toUInt8,
      (0x80 + n / 0x40 % 0x40).toUInt8, (0x80 + n % 0x40).toUInt8]

namespace Utf8

/-- A run of surrogates that cannot be encoded: positions `first` up to but not including `stop`,
the code point at `first` being `code`. -/
structure EncodeFault where
  code : Code
  first : Nat
  stop : Nat
deriving DecidableEq, Repr

/-- Why a span of bytes is malformed. -/
inductive Malformation
  | badStart
  | badContinuation
  | truncated
deriving DecidableEq, Repr

/-- A malformed span: its first position, its first byte and its length. -/
structure DecodeFault where
  first : Nat
  byte : UInt8
  length : Nat
  reason : Malformation
deriving DecidableEq, Repr

/-- The report of an encoding fault. -/
def EncodeFault.message (f : EncodeFault) : Text :=
  if f.stop = f.first + 1 then
    "'utf-8' codec can't encode character '\\u" ++ Text.hex 4 f.code.val ++ "' in position "
      ++ Text.ofNat f.first ++ ": surrogates not allowed"
  else
    "'utf-8' codec can't encode characters in position " ++ Text.ofNat f.first ++ "-"
      ++ Text.ofNat (f.stop - 1) ++ ": surrogates not allowed"

/-- The wording of a malformation. -/
def Malformation.message : Malformation → Text
  | .badStart => "invalid start byte"
  | .badContinuation => "invalid continuation byte"
  | .truncated => "unexpected end of data"

/-- The report of a decoding fault. -/
def DecodeFault.message (f : DecodeFault) : Text :=
  (if f.length = 1 then
    "'utf-8' codec can't decode byte 0x" ++ Text.hex 2 f.byte.toNat ++ " in position "
      ++ Text.ofNat f.first
  else
    "'utf-8' codec can't decode bytes in position " ++ Text.ofNat f.first ++ "-"
      ++ Text.ofNat (f.first + f.length - 1)) ++ ": " ++ f.reason.message

/-! ## Reading -/

/-- A code point or a malformed span. -/
inductive Piece
  | code (c : Code)
  | malformed (bytes : Bytes) (reason : Malformation)
deriving DecidableEq, Repr

/-- A continuation byte. -/
def isTail (b : UInt8) : Bool := 0x80 ≤ b && b < 0xc0

/-- A byte that starts a character of several bytes. -/
def isLead (b : UInt8) : Bool := 0xc2 ≤ b && b < 0xf5

/-- The length of the character that a lead byte starts. -/
def width (lead : UInt8) : Nat := if lead < 0xe0 then 2 else if lead < 0xf0 then 3 else 4

/-- Whether `b` may follow the bytes `held`. The second byte is bounded so that no form is
overlong, none encodes a surrogate and none exceeds U+10FFFF. -/
def continues (held : Bytes) (b : UInt8) : Bool :=
  isTail b && match held with
    | [a] => (a != 0xe0 || 0xa0 ≤ b) && (a != 0xed || b < 0xa0)
        && (a != 0xf0 || 0x90 ≤ b) && (a != 0xf4 || b < 0x90)
    | _ => true

/-- The code point of a complete character. -/
def assemble : Bytes → Code
  | [] => default
  | a :: tails =>
    let top := if tails.length = 1 then a.toNat % 0x20
      else if tails.length = 2 then a.toNat % 0x10 else a.toNat % 0x8
    .ofNat (tails.foldl (fun n b => n * 0x40 + b.toNat % 0x40) top)

/-- The span `held` as malformed, unless it is empty. -/
def broken (held : Bytes) (reason : Malformation) : List Piece :=
  if held = [] then [] else [.malformed held reason]

/-- The pieces of a byte string that is preceded by the beginning `held` of a character. -/
def piecesAfter (held : Bytes) : Bytes → List Piece
  | [] => broken held .truncated
  | b :: rest =>
    if held ≠ [] && continues held b then
      let whole := held ++ [b]
      if whole.length = width (whole.headD 0) then .code (assemble whole) :: piecesAfter [] rest
      else piecesAfter whole rest
    else
      broken held .badContinuation ++
        if b < 0x80 then .code (.ofNat b.toNat) :: piecesAfter [] rest
        else if isLead b then piecesAfter [b] rest
        else .malformed [b] .badStart :: piecesAfter [] rest

/-- The pieces of a byte string, in order. -/
def pieces (bytes : Bytes) : List Piece := piecesAfter [] bytes

/-- The code points of pieces that start at position `pos`, unless one is malformed. -/
def codesFrom? (pos : Nat) : List Piece → Except DecodeFault Text
  | [] => .ok []
  | .code c :: rest => do return c :: (← codesFrom? (pos + c.utf8.length) rest)
  | .malformed bytes reason :: _ => .error ⟨pos, bytes.headD 0, bytes.length, reason⟩

/-- Strict reading. -/
def decode? (bytes : Bytes) : Except DecodeFault Text := codesFrom? 0 (pieces bytes)

/-- Lossy reading: malformed spans are dropped. -/
def decodeLossy (bytes : Bytes) : Text :=
  (pieces bytes).flatMap fun
    | .code c => [c]
    | .malformed _ _ => []

/-- The surrogate that stands for a byte that could not be read. -/
def escapeByte (b : UInt8) : Code := .ofNat (0xdc00 + b.toNat)

/-- Escaping reading: each byte of a malformed span becomes a surrogate. -/
def decodeEscaped (bytes : Bytes) : Text :=
  (pieces bytes).flatMap fun
    | .code c => [c]
    | .malformed span _ => span.map escapeByte

/-! ## Writing -/

/-- The fault at position `pos`, where the surrogates in front of `t` begin. -/
def faultAt (pos : Nat) (t : Text) : EncodeFault :=
  ⟨t.headD default, pos, pos + (t.takeWhile fun c => decide c.IsSurrogate).length⟩

/-- Writes a text that starts at position `pos`. -/
def encodeFrom? (pos : Nat) : Text → Except EncodeFault Bytes
  | [] => .ok []
  | c :: rest =>
    if c.IsSurrogate then .error (faultAt pos (c :: rest))
    else do return c.utf8 ++ (← encodeFrom? (pos + 1) rest)

/-- The byte that a surrogate stands for, if it stands for one. -/
def escapedByte? (c : Code) : Option UInt8 :=
  if 0xdc80 ≤ c.val ∧ c.val ≤ 0xdcff then some (c.val - 0xdc00).toUInt8 else none

/-- Writes a text that starts at position `pos`, surrogates that stand for bytes as those bytes. -/
def encodeEscapedFrom? (pos : Nat) : Text → Except EncodeFault Bytes
  | [] => .ok []
  | c :: rest =>
    match escapedByte? c with
    | some b => do return b :: (← encodeEscapedFrom? (pos + 1) rest)
    | none =>
      if c.IsSurrogate then .error (faultAt pos (c :: rest))
      else do return c.utf8 ++ (← encodeEscapedFrom? (pos + 1) rest)

end Utf8

namespace Text

/-- The UTF-8 form of a text without surrogates. -/
def encode? (t : Text) : Except Utf8.EncodeFault Bytes := Utf8.encodeFrom? 0 t

/-- The bytes a file name or a terminal stream holds for a text. -/
def encodeEscaped? (t : Text) : Except Utf8.EncodeFault Bytes := Utf8.encodeEscapedFrom? 0 t

end Text

end ThemeForge

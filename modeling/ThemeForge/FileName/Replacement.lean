import ThemeForge.FileName.Legal
import ThemeForge.Text.Identifier
import ThemeForge.Text.Quoted

/-!
# Replacements

What takes the place of an illegal code point. A replacement is written as a small template in
which a backslash introduces a control character (`\n`), a code point by its octal number (`\101`,
`\0`) or the replaced code point itself (`\g<0>`). There is no other group to refer to, and an
unknown escape of a letter is refused.

* `Replacement`: the parts of a replacement; `Replacement.apply` substitutes in a text;
* `Replacement.parse?`: reads the written form, `Replacement.Fault` says why it cannot;
* `Replacement.literal`: a text that stands for itself.
-/

namespace ThemeForge

/-- A part of a replacement. -/
inductive ReplacementPart
  | text (t : Text)
  | replaced
deriving DecidableEq, Repr

/-- What a code point is replaced by. -/
abbrev Replacement := List ReplacementPart

namespace Replacement

/-- A replacement that is a text. -/
def literal (t : Text) : Replacement := [.text t]

/-- What takes the place of `c`. -/
def expand (r : Replacement) (c : Code) : Text :=
  r.flatMap fun
    | .text t => t
    | .replaced => [c]

/-- Replaces the illegal code points of a text. -/
def apply (r : Replacement) (t : Text) : Text :=
  t.flatMap fun c => if c.IsIllegal then r.expand c else [c]

/-! ## Faults -/

/-- What is wrong with a written replacement. -/
inductive Problem
  | backslashAtEnd
  | badEscape (escape : Text)
  | groupReference (number : Nat)
  | missingOpening
  | missingName
  | unterminatedName
  | badName (name : Text)
  | octalTooLarge (escape : Text)
deriving DecidableEq, Repr

/-- Why a written replacement is refused: a problem at a position of it, or a group that does not
exist. -/
inductive Fault
  | malformed (problem : Problem) (written : Text) (position : Nat)
  | unknownGroup (name : Text)
deriving DecidableEq, Repr

/-- The wording of a problem. -/
def Problem.message : Problem → Text
  | .backslashAtEnd => "bad escape (end of pattern)"
  | .badEscape escape => "bad escape " ++ escape
  | .groupReference n => "invalid group reference " ++ Text.ofNat n
  | .missingOpening => "missing <"
  | .missingName => "missing group name"
  | .unterminatedName => "missing >, unterminated name"
  | .badName name => "bad character in group name " ++ name.quote
  | .octalTooLarge escape =>
    "octal escape value " ++ escape ++ " outside of range 0-0o377"

/-- The wording of a fault; a position in a text of several lines is also given by line and
column. -/
def Fault.message : Fault → Text
  | .malformed problem written position =>
    let seen := written.take position
    let column := (seen.reverse.takeWhile (· != Code.ofChar '\n')).length + 1
    problem.message ++ " at position " ++ Text.ofNat position ++
      if written.contains (Code.ofChar '\n') then
        " (line " ++ Text.ofNat (seen.count (Code.ofChar '\n') + 1) ++ ", column "
          ++ Text.ofNat column ++ ")"
      else ""
  | .unknownGroup name => "unknown group name " ++ name.quote

/-! ## Reading -/

/-- A lexeme: a code point, or a backslash with the code point after it. -/
inductive Lexeme
  | plain (c : Code)
  | escape (c : Code)
deriving DecidableEq, Repr

/-- The text of a lexeme. -/
def Lexeme.text : Lexeme → Text
  | .plain c => [c]
  | .escape c => ['\\', c]

/-- The lexemes of a text, and whether a lone backslash follows them. -/
def lexemes : Text → List Lexeme × Bool
  | [] => ([], false)
  | a :: rest =>
    if a = '\\' then
      match rest with
      | [] => ([], true)
      | c :: rest' => let (ls, lone) := lexemes rest'; (.escape c :: ls, lone)
    else let (ls, lone) := lexemes rest; (.plain a :: ls, lone)

/-- The control character of an escape. -/
def control? (c : Code) : Option Code :=
  if c = 'a' then some '\x07' else if c = 'b' then some '\x08' else if c = 'f' then some '\x0c'
  else if c = 'n' then some '\n' else if c = 'r' then some '\r' else if c = 't' then some '\t'
  else if c = 'v' then some '\x0b' else if c = '\\' then some '\\' else none

/-- The octal digits, at most `n`, at the start of the lexemes. -/
def octalDigits : Nat → List Lexeme → Text
  | n + 1, .plain c :: rest => if c.octalValue?.isSome then c :: octalDigits n rest else []
  | _, _ => []

/-- The value of a run of octal digits. -/
def octalValue (t : Text) : Nat := t.foldl (fun n c => 8 * n + (c.val - 48)) 0

/-- The lexemes before the first `>`, as a text. -/
def groupName : List Lexeme → Text
  | [] => []
  | l :: rest => if l = .plain '>' then [] else l.text ++ groupName rest

/-- Reads the lexemes `ls`, of which the first starts at `pos` in the text `written`; `lone` says
that a lone backslash ends that text. A lone backslash is noticed as soon as the lexeme before it
has been read. -/
def parseFrom? (written : Text) (lone : Bool) : Nat → Nat → List Lexeme → Except Fault Replacement
  | 0, _, _ => .ok []
  | fuel + 1, pos, ls =>
    let fail (p : Problem) (place : Nat) : Except Fault Replacement :=
      .error (.malformed p written place)
    let loneAt := written.length - 1
    match ls with
    | [] => if lone then fail .backslashAtEnd loneAt else .ok []
    | .plain c :: rest =>
      if rest.isEmpty && lone then fail .backslashAtEnd loneAt
      else return .text [c] :: (← parseFrom? written lone fuel (pos + 1) rest)
    | .escape c :: rest =>
      if rest.isEmpty && lone then fail .backslashAtEnd loneAt
      else if c = 'g' then
        match rest with
        | .plain opening :: inner =>
          if opening = '<' then
            let name := groupName inner
            let size := (inner.takeWhile (· ≠ .plain '>')).length
            if inner.length = size then
              if lone then fail .backslashAtEnd loneAt
              else if name = [] then fail .missingName written.length
              else fail .unterminatedName (written.length - name.length)
            else if lone && inner.length = size + 1 then fail .backslashAtEnd loneAt
            else if name = [] then fail .missingName (pos + 3)
            else if name.all Code.isDigit then
              if name.toNat = 0 then
                return .replaced ::
                  (← parseFrom? written lone fuel (pos + 4 + name.length) (inner.drop (size + 1)))
              else fail (.groupReference name.toNat) (pos + 3)
            else if name.isName then .error (.unknownGroup name)
            else fail (.badName name) (pos + 3)
          else fail .missingOpening (pos + 2)
        | _ => fail .missingOpening (pos + 2)
      else if c = '0' then
        let digits := octalDigits 2 rest
        if lone && rest.length = digits.length then fail .backslashAtEnd loneAt
        else return .text [Code.ofNat (octalValue digits % 0x100)] ::
          (← parseFrom? written lone fuel (pos + 2 + digits.length) (rest.drop digits.length))
      else if c.isDigit then
        let digits := if c.octalValue?.isSome then octalDigits 2 rest else []
        if digits.length = 2 then
          if lone && rest.length = 2 then fail .backslashAtEnd loneAt
          else if octalValue (c :: digits) > 0xff then
            fail (.octalTooLarge ('\\' :: c :: digits)) pos
          else return .text [Code.ofNat (octalValue (c :: digits))] ::
            (← parseFrom? written lone fuel (pos + 4) (rest.drop 2))
        else
          match rest with
          | .plain d :: rest' =>
            if d.isDigit then
              if rest'.isEmpty && lone then fail .backslashAtEnd loneAt
              else fail (.groupReference (Text.toNat [c, d])) (pos + 1)
            else fail (.groupReference (Text.toNat [c])) (pos + 1)
          | _ => fail (.groupReference (Text.toNat [c])) (pos + 1)
      else
        match control? c with
        | some k => return .text [k] :: (← parseFrom? written lone fuel (pos + 2) rest)
        | none =>
          if c.isLetter then fail (.badEscape ['\\', c]) pos
          else return .text ['\\', c] :: (← parseFrom? written lone fuel (pos + 2) rest)

/-- Reads a written replacement. -/
def parse? (written : Text) : Except Fault Replacement :=
  let (ls, lone) := lexemes written
  parseFrom? written lone (ls.length + 1) 0 ls

end Replacement

end ThemeForge

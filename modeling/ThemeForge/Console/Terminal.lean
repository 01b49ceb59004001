import ThemeForge.Console.Table

/-!
# Terminals

How something looks depends on where it goes. Lines and tables are laid out by a library that wraps
and colours them; what is printed as it is loses its control sequences unless someone watches.

* `Terminal`: whether someone watches, and the text for a line of a stream and for a table;
* `Text.withoutSequences`: a text without the control sequences in it;
* `Terminal.echo`: what is written of a text that is printed as it is.
-/

namespace ThemeForge

/-- The streams that a program writes. -/
inductive Console.Stream
  | output
  | errors
deriving DecidableEq, Repr

/-- Where the streams of a program go. In a line that is laid out, nothing is markup. -/
class Terminal where
  isInteractive : Bool
  layout : Console.Stream → Text → Text
  table : Table → Text

/-- The code point that begins a control sequence. -/
def Code.escape : Code := '\x1b'

/-- A code point between the beginning of a control sequence and the letter that ends it. -/
def Code.isParameter (c : Code) : Bool := c.isDigit || c == ';' || c == '?'

namespace Text

/-- If a text begins with a control sequence, the number of code points of the sequence after the
first. -/
def sequenceTail? : Text → Option Nat
  | c :: d :: rest =>
    if c = Code.escape ∧ d = '[' then
      let parameters := rest.takeWhile Code.isParameter
      if (rest.drop parameters.length).head?.any Code.isLetter then some (parameters.length + 2)
      else none
    else none
  | _ => none

/-- A text without control sequences; the number counts the code points that are left of one. -/
def withoutSequencesFrom : Nat → Text → Text
  | _, [] => []
  | n + 1, _ :: rest => withoutSequencesFrom n rest
  | 0, c :: rest =>
    match sequenceTail? (c :: rest) with
    | some n => withoutSequencesFrom n rest
    | none => c :: withoutSequencesFrom 0 rest

/-- A text without the control sequences in it. -/
def withoutSequences (t : Text) : Text := withoutSequencesFrom 0 t

end Text

/-- What is written of a text that is printed as it is. -/
def Terminal.echo [Terminal] (t : Text) : Text :=
  if Terminal.isInteractive then t else t.withoutSequences

end ThemeForge

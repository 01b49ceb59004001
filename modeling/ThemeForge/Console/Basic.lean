import ThemeForge.Text.Blank
import ThemeForge.Text.Case

/-!
# The console

What a user types, what is printed for them, and what is reported as an error. The streams take
every text, surrogates included; encodings that cannot carry some of them are left out.

* `Console`: the three streams, the first as what is left of it;
* `Console.readLine?`: the next line, without its end;
* `Console.yesNo?`: the answer that a line gives to a question.
-/

namespace ThemeForge

/-- The streams of a program: what is left to read, and what has been written. -/
structure Console where
  input : Text := []
  output : Text := []
  errors : Text := []
deriving DecidableEq, Repr

namespace Console

/-- A console on which a text is typed; all line ends count as line feeds. -/
def typing (t : Text) : Console := { input := t.universalNewlines }

/-- The next line and what follows it; at the end of the input there is none. -/
def splitLine? (t : Text) : Option (Text × Text) :=
  if t = [] then none
  else some (t.takeWhile (· != Code.ofChar '\n'), (t.dropWhile (· != Code.ofChar '\n')).drop 1)

/-- Reads a line. -/
def readLine? (c : Console) : Option (Text × Console) :=
  (splitLine? c.input).map fun (line, rest) => (line, { c with input := rest })

/-- Prints a text. -/
def print (c : Console) (t : Text) : Console := { c with output := c.output ++ t }

/-- Reports a text as an error. -/
def report (c : Console) (t : Text) : Console := { c with errors := c.errors ++ t }

/-- The answer that a line gives to a question; an empty line gives the default. -/
def yesNo? (fallback : Bool) (line : Text) : Option Bool :=
  let word := Text.trim (Text.lower line)
  if word = "y" ∨ word = "yes" then some true
  else if word = "n" ∨ word = "no" then some false
  else if word = [] then some fallback
  else none

theorem splitLine?_length {t line rest : Text} (h : splitLine? t = some (line, rest)) :
    rest.length < t.length := by
  unfold splitLine? at h
  split at h
  · contradiction
  · rename_i hne
    simp only [Option.some.injEq, Prod.mk.injEq] at h
    obtain ⟨-, rfl⟩ := h
    have hpos : 0 < t.length := List.length_pos_iff.mpr hne
    have hle : (t.dropWhile (· != Code.ofChar '\n')).length ≤ t.length :=
      (List.dropWhile_suffix _).length_le
    simp only [List.length_drop]
    omega

end Console

end ThemeForge

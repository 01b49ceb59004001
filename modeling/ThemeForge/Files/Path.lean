import ThemeForge.Text.Utf8

/-!
# Paths

A path is a root, empty for a relative path, and the names between its slashes. Empty names and
names of a single dot mean nothing and are left out; a name of two dots is kept, since where it
leads depends on what is on disk.

* `FilePath.ofText`, `FilePath.text`: reading and writing;
* `FilePath.name`, `FilePath.parent`, `FilePath.child`: the last name, and one step up and down;
* `FilePath.upTo`: the beginnings of a path;
* `FilePath.isBareName`: texts that are the name of a file and nothing else.
-/

namespace ThemeForge

/-- A path. -/
structure FilePath where
  root : Text
  names : List Text
deriving DecidableEq, Repr

namespace FilePath

/-- The root of a written path: two slashes are kept as they are, three and more count as one. -/
def rootOf (t : Text) : Text :=
  match (t.takeWhile (· == Code.ofChar '/')).length with
  | 0 => ""
  | 2 => "//"
  | _ => "/"

/-- Names that say where a path leads. -/
def isStep (name : Text) : Bool := name ≠ [] && name ≠ "."

/-- The path of a text. -/
def ofText (t : Text) : FilePath := ⟨rootOf t, (t.splitOn '/').filter isStep⟩

/-- The written form; the path without names is a dot. -/
def text (p : FilePath) : Text :=
  if p.root = [] ∧ p.names = [] then "." else p.root ++ Text.join "/" p.names

/-- The last name, empty if there is none. -/
def name (p : FilePath) : Text := p.names.getLastD []

/-- The path without its last name. -/
def parent (p : FilePath) : FilePath := { p with names := p.names.dropLast }

/-- The path of an entry of a directory. -/
def child (p : FilePath) (name : Text) : FilePath := { p with names := p.names ++ [name] }

/-- The path of the first `n` names. -/
def upTo (p : FilePath) (n : Nat) : FilePath := { p with names := p.names.take n }

/-- A text that is its own last name: not empty, without slash, and not a single dot. -/
def isBareName (t : Text) : Bool := t ≠ [] && (ofText t).name == t

end FilePath

end ThemeForge

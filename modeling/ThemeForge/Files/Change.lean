import ThemeForge.Files.Tree

/-!
# Changes on disk

What differs between two states of a file system.

* `Change`, `FileSystem.differences`: new directories, new or changed files, and what is gone;
* `FileSystem.changes`: the differences in the working directory.
-/

namespace ThemeForge

/-- A difference at a place. -/
inductive Change
  | directory
  | file (content : Bytes)
  | removed
deriving DecidableEq, Repr

namespace FileSystem

/-- The text of names between slashes. -/
def namesText (names : List Bytes) : Text := Text.join "/" (names.map Utf8.decodeEscaped)

/-- The difference between what was and what is at a place. -/
def change? : Option Entry → Option Entry → Option Change
  | some (.file c _), some (.file c' _) => if c = c' then none else some (.file c')
  | _, some (.file c _) => some (.file c)
  | some .directory, some .directory => none
  | _, some .directory => some .directory
  | some _, none => some .removed
  | none, none => none

/-- The differences, directories before what was made in them. -/
def differences (before after : FileSystem) : List (Location × Change) :=
  let places := (after.entries ++ before.entries.filter fun x => (after.lookup x.1).isNone)
  places.filterMap fun x =>
    (change? (before.lookup x.1) (after.lookup x.1)).map fun c => (x.1, c)

/-- The differences below the working directory. -/
def changes (before after : FileSystem) : List (Text × Change) :=
  (before.differences after).filterMap fun x =>
    if x.1.base = .working 0 then some (namesText x.1.names, x.2) else none

end FileSystem

/-- The path that leads to a place. -/
def Location.text (l : Location) : Text :=
  match l.base with
  | .working up => Text.join "/" (List.replicate up (".." : Text) ++ [FileSystem.namesText l.names])
  | .root => "/" ++ FileSystem.namesText l.names

end ThemeForge

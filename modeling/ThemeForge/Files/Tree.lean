import ThemeForge.Files.Path

/-!
# The file system

Files and directories, as far as a run of the program can see them. Places are named relative to
the working directory; the directories that lie on the way from the root to it always exist.

* `Location`, `Entry`, `FileSystem`: places, what is at them, and all of it;
* `FileSystem.lookup`: the one view by which the operations are described;
* `FileSystem.locate`: follows a path, which fails as soon as a step leads nowhere;
* `FileSystem.put`, `FileSystem.erase`: changes, and `FileSystem.IsTree`, which says that whatever
  exists lies in a directory.
-/

namespace ThemeForge

/-- Where places are counted from: a directory at or above the working directory, or the root. -/
inductive Base
  | working (up : Nat)
  | root
deriving DecidableEq, Repr

/-- A place: names as bytes, from a base downwards. -/
structure Location where
  base : Base
  names : List Bytes
deriving DecidableEq, Repr

/-- What is at a place. A file carries a stamp, which every writing changes. -/
inductive Entry
  | file (content : Bytes) (stamp : Nat)
  | directory
deriving DecidableEq, Repr

/-- The entries of a file system, and the stamp for the next file that is written. -/
structure FileSystem where
  entries : List (Location × Entry) := []
  clock : Nat := 0
deriving Repr

/-- Why the system refuses an operation. -/
inductive SystemError
  | noEntry
  | exists
  | notDirectory
  | isDirectory
  | noSpace
  | nameTooLong
deriving DecidableEq, Repr

namespace SystemError

/-- The number of an error. -/
def number : SystemError → Nat
  | .noEntry => 2
  | .exists => 17
  | .notDirectory => 20
  | .isDirectory => 21
  | .noSpace => 28
  | .nameTooLong => 36

/-- The wording of an error. -/
def wording : SystemError → Text
  | .noEntry => "No such file or directory"
  | .exists => "File exists"
  | .notDirectory => "Not a directory"
  | .isDirectory => "Is a directory"
  | .noSpace => "No space left on device"
  | .nameTooLong => "File name too long"

/-- An error without the path it concerns. -/
def message (e : SystemError) : Text :=
  Text.concat ["[Errno ", Text.ofNat e.number, "] ", e.wording]

end SystemError

/-- Why a path cannot be used: it has no bytes, it holds a zero byte, or the system refuses. -/
inductive PathFault
  | encoding (f : Utf8.EncodeFault)
  | zeroByte
  | system (e : SystemError)
deriving DecidableEq, Repr

namespace Location

/-- The working directory. -/
def working : Location := ⟨.working 0, []⟩

/-- The directory in which a place lies. -/
def parent : Location → Location
  | ⟨.working up, []⟩ => ⟨.working (up + 1), []⟩
  | ⟨.root, []⟩ => ⟨.root, []⟩
  | ⟨base, names⟩ => ⟨base, names.dropLast⟩

/-- An entry of a directory. -/
def child (l : Location) (name : Bytes) : Location := ⟨l.base, l.names ++ [name]⟩

/-- The names from `l` down to a place, unless it is not below `l`. -/
def below? (l place : Location) : Option (List Bytes) :=
  if place.base = l.base ∧ l.names.isPrefixOf place.names then
    some (place.names.drop l.names.length)
  else none

end Location

namespace FileSystem

/-- What is at a place. -/
def lookup (fs : FileSystem) (l : Location) : Option Entry :=
  if l.names = [] then some .directory else fs.entries.lookup l

/-- Whether a directory is at a place. -/
def isDirectory (fs : FileSystem) (l : Location) : Bool := fs.lookup l == some .directory

/-- Whatever exists lies in a directory. -/
def IsTree (fs : FileSystem) : Prop :=
  ∀ l, (fs.lookup l).isSome → fs.lookup l.parent = some .directory

/-- Sets what is at a place. -/
def put (fs : FileSystem) (l : Location) (e : Entry) : FileSystem :=
  { fs with entries := if fs.entries.any (fun x => x.1 == l) then
      fs.entries.map fun x => if x.1 = l then (l, e) else x
    else fs.entries ++ [(l, e)] }

/-- Writes a file with a fresh stamp. -/
def putFile (fs : FileSystem) (l : Location) (content : Bytes) : FileSystem :=
  { fs.put l (.file content fs.clock) with clock := fs.clock + 1 }

/-- Removes a place and all below it. -/
def erase (fs : FileSystem) (l : Location) : FileSystem :=
  { fs with entries := fs.entries.filter fun x => (l.below? x.1).isNone }

/-! ## Following paths -/

/-- The most bytes of a name. -/
def maxNameBytes : Nat := 255

/-- The most bytes of a path. -/
def maxPathBytes : Nat := 4095

/-- The place that a name leads to from a place, which must be a directory. -/
def step (fs : FileSystem) (l : Location) (name : Bytes) : Except SystemError Location :=
  match fs.lookup l with
  | none => .error .noEntry
  | some (.file _ _) => .error .notDirectory
  | some .directory =>
    if name = [46, 46] then .ok l.parent
    else if name.length > maxNameBytes then .error .nameTooLong
    else .ok (l.child name)

/-- The place that names lead to; all but the last must lead to directories. -/
def follow (fs : FileSystem) : Location → List Bytes → Except SystemError Location
  | l, [] => .ok l
  | l, n :: names => do fs.follow (← fs.step l n) names

end FileSystem

namespace FilePath

/-- Where a path starts. -/
def start (p : FilePath) : Location := if p.root = [] then .working else ⟨.root, []⟩

/-- The bytes of a path, which must not hold a zero byte. -/
def bytes? (p : FilePath) : Except PathFault Bytes :=
  match p.text.encodeEscaped? with
  | .error f => .error (.encoding f)
  | .ok b => if b.contains 0 then .error .zeroByte else .ok b

/-- The names of a path as bytes. -/
def nameBytes (p : FilePath) : List Bytes :=
  p.names.filterMap fun n => n.encodeEscaped?.toOption

/-- The path that goes on down from a directory by names as bytes. -/
def down (p : FilePath) (names : List Bytes) : FilePath :=
  { p with names := p.names ++ names.map Utf8.decodeEscaped }

end FilePath

namespace FileSystem

/-- The place that a path leads to. -/
def locate (fs : FileSystem) (p : FilePath) : Except PathFault Location := do
  let b ← p.bytes?
  if b.length > maxPathBytes then throw (.system .nameTooLong)
  else (fs.follow p.start p.nameBytes).mapError .system

/-- What a path leads to. -/
def find? (fs : FileSystem) (p : FilePath) : Except PathFault (Option Entry) := do
  return fs.lookup (← fs.locate p)

/-- Whether a path leads to a directory. -/
def hasDirectory (fs : FileSystem) (p : FilePath) : Bool :=
  match fs.find? p with
  | .ok (some .directory) => true
  | _ => false

/-- The file that a path leads to: its content and its stamp. -/
def file? (fs : FileSystem) (p : FilePath) : Option (Bytes × Nat) :=
  match fs.find? p with
  | .ok (some (.file content stamp)) => some (content, stamp)
  | _ => none

/-- The files below a place, by the names that lead to them. -/
def filesBelow (fs : FileSystem) (l : Location) : List (List Bytes) :=
  fs.entries.filterMap fun x =>
    match x.2 with
    | .file _ _ => l.below? x.1
    | .directory => none

end FileSystem

end ThemeForge

import ThemeForge.Files.Tree

/-!
# Making directories and files

* `FileSystem.makeDirectory`: one directory, whose parent must exist;
* `FileSystem.makeDirectories`: a directory with the missing ones above it; one that is already
  there is no error;
* `FileSystem.createFile`: a file that must not exist yet;
* `FileSystem.installFile`, `FileSystem.installDirectory`: a file or directory with all that
  leads to it, whatever was there before.
-/

namespace ThemeForge.FileSystem

/-- Makes a directory. -/
def makeDirectory (fs : FileSystem) (p : FilePath) : Except PathFault FileSystem := do
  let l ← fs.locate p
  match fs.lookup l with
  | some _ => throw (.system .exists)
  | none =>
    if fs.isDirectory l.parent then return fs.put l .directory
    else throw (.system .noEntry)

/-- A refusal to make a directory, with the path it concerns. -/
structure DirectoryFault where
  path : FilePath
  fault : PathFault
deriving DecidableEq, Repr

/-- What a refusal to make a directory means in the end: one of the system is none if the directory
is there. -/
def settle (fs : FileSystem) (p : FilePath) (f : PathFault) : Except DirectoryFault Unit :=
  match f with
  | .system _ => if fs.hasDirectory p then .ok () else .error ⟨p, f⟩
  | _ => .error ⟨p, f⟩

/-- Makes the directory at the first `n` names of a path unless it is there, and those above it as
far as they are missing. Directories that were made before a failure stay. -/
def makeDirectoriesTo (path : FilePath) :
    Nat → FileSystem → FileSystem × Except DirectoryFault Unit
  | n, fs =>
    match fs.makeDirectory (path.upTo n) with
    | .ok fs => (fs, .ok ())
    | .error (.system .noEntry) =>
      match n with
      | 0 => (fs, .error ⟨path.upTo 0, .system .noEntry⟩)
      | n + 1 =>
        match makeDirectoriesTo path n fs with
        | (fs, .error f) => (fs, .error f)
        | (fs, .ok ()) =>
          match fs.makeDirectory (path.upTo (n + 1)) with
          | .ok fs => (fs, .ok ())
          | .error f => (fs, fs.settle (path.upTo (n + 1)) f)
    | .error f => (fs, fs.settle (path.upTo n) f)

/-- Makes a directory and those above it, as far as they are missing. -/
def makeDirectories (fs : FileSystem) (p : FilePath) :
    FileSystem × Except DirectoryFault Unit :=
  makeDirectoriesTo p p.names.length fs

/-- Creates a file that must not exist yet. -/
def createFile (fs : FileSystem) (p : FilePath) (content : Bytes) :
    Except PathFault FileSystem := do
  let l ← fs.locate p
  match fs.lookup l with
  | some _ => throw (.system .exists)
  | none =>
    if fs.isDirectory l.parent then return fs.putFile l content
    else throw (.system .noEntry)

/-- Removes the file that a path leads to. -/
def removeFile (fs : FileSystem) (p : FilePath) : FileSystem :=
  match fs.locate p with
  | .ok l => fs.erase l
  | .error _ => fs

/-- Makes the directories above a place. -/
def installParents (fs : FileSystem) (base : Base) (names : List Bytes) : FileSystem :=
  (List.range names.length).foldl
    (fun fs n =>
      let l : Location := ⟨base, names.take n⟩
      if (fs.lookup l).isSome then fs else fs.put l .directory) fs

/-- Puts a file at a path, with all that leads to it. -/
def installFile (fs : FileSystem) (p : FilePath) (content : Bytes) : FileSystem :=
  let l : Location := ⟨p.start.base, p.nameBytes⟩
  (fs.installParents l.base l.names).putFile l content

/-- Puts a directory at a path, with all that leads to it. -/
def installDirectory (fs : FileSystem) (p : FilePath) : FileSystem :=
  let l : Location := ⟨p.start.base, p.nameBytes⟩
  let fs := fs.installParents l.base l.names
  if (fs.lookup l).isSome then fs else fs.put l .directory

/-- Removes what a path leads to. -/
def uninstall (fs : FileSystem) (p : FilePath) : FileSystem := fs.erase ⟨p.start.base, p.nameBytes⟩

end ThemeForge.FileSystem

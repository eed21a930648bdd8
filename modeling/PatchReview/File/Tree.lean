/-
File trees.

A tree knows the files and folders below the root by their places: the names that lead
there.  Looking for a path walks from the working folder or the root, part by part, and
every part but the last has to lead to a folder.  Changing a tree gives a new one.

A tree is what can be got at: every folder in it can be searched and every file read and
written, and any text that names something in a path is a name that may be looked up.
-/
import PatchReview.File.Path
import PatchReview.Text.Quoted

namespace PatchReview

/-- What stands at a place. -/
inductive FileEntry
  | folder
  | file (bytes : List UInt8)
deriving DecidableEq, Repr

/-- Files and folders. -/
structure FileTree where
  entries : List (List Text × FileEntry) := []
deriving DecidableEq, Repr

/-- What keeps a path from being used. -/
inductive FileFlaw
  /-- It leads nowhere. -/
  | missing
  /-- It leads through a file. -/
  | notFolder
  /-- It leads to a folder where a file is wanted. -/
  | isFolder
  /-- It leads to a file where a folder is to be made. -/
  | taken
deriving DecidableEq, Repr

/-- A path that cannot be used. -/
structure FileError where
  flaw : FileFlaw
  path : Path
deriving DecidableEq, Repr

namespace FileFlaw

/-- What is said about a flaw. -/
def description : FileFlaw → Text
  | missing => "[Errno 2] No such file or directory"
  | notFolder => "[Errno 20] Not a directory"
  | isFolder => "[Errno 21] Is a directory"
  | taken => "[Errno 17] File exists"

end FileFlaw

namespace FileError

/-- What is said about a path that cannot be used. -/
def message (e : FileError) : Text := e.flaw.description ++ ": " ++ e.path.text.quoted

end FileError

namespace FileTree

/-! ### Looking -/

/-- What stands at a place; at the root stands a folder. -/
def get? (tree : FileTree) (place : List Text) : Option FileEntry :=
  if place = [] then some .folder
  else (tree.entries.find? fun entry => entry.1 == place).map Prod.snd

/-- Walks from a place along the parts of a path.  Nothing has to stand at the end of the walk. -/
def walk (tree : FileTree) (place : List Text) : List Text → Except FileFlaw (List Text)
  | [] => .ok place
  | part :: rest =>
    match tree.get? place with
    | some .folder =>
      walk tree (if part = Path.up then place.dropLast else place ++ [part]) rest
    | some (.file _) => .error .notFolder
    | none => .error .missing

/-- The place that a path leads to. -/
def locate (tree : FileTree) (workingFolder : List Text) (path : Path) :
    Except FileFlaw (List Text) :=
  tree.walk (if path.isAbsolute then [] else workingFolder) path.parts

/-- What a path leads to. -/
def look (tree : FileTree) (workingFolder : List Text) (path : Path) :
    Except FileFlaw FileEntry := do
  let place ← tree.locate workingFolder path
  match tree.get? place with
  | none => .error .missing
  | some entry => .ok entry

/-- Whether a path leads to something. -/
def contains (tree : FileTree) (workingFolder : List Text) (path : Path) : Bool :=
  (tree.look workingFolder path).toOption.isSome

/-- Whether a path leads to a folder. -/
def hasFolder (tree : FileTree) (workingFolder : List Text) (path : Path) : Bool :=
  (tree.look workingFolder path).toOption = some .folder

/-- The bytes of a file. -/
def read (tree : FileTree) (workingFolder : List Text) (path : Path) :
    Except FileError (List UInt8) :=
  match tree.look workingFolder path with
  | .error flaw => .error ⟨flaw, path⟩
  | .ok .folder => .error ⟨.isFolder, path⟩
  | .ok (.file bytes) => .ok bytes

/-! ### Changing -/

/-- Puts an entry at a place. -/
def set (tree : FileTree) (place : List Text) (entry : FileEntry) : FileTree :=
  { entries := (place, entry) :: tree.entries.filter fun e => e.1 != place }

/-- Makes one folder, where nothing stands yet. -/
def makeFolder (tree : FileTree) (workingFolder : List Text) (path : Path) :
    Except FileFlaw FileTree := do
  let place ← tree.locate workingFolder path
  match tree.get? place with
  | some _ => .error .taken
  | none => .ok (tree.set place .folder)

/-- Makes one folder unless it is there already. -/
def ensureFolder (tree : FileTree) (workingFolder : List Text) (path : Path) :
    Except FileError FileTree :=
  match tree.makeFolder workingFolder path with
  | .ok tree => .ok tree
  | .error flaw => if tree.hasFolder workingFolder path then .ok tree else .error ⟨flaw, path⟩

/-- Makes a folder and the folders above it that are missing, the last `depth` parts of the path at
most.  What was made before something fails stays. -/
def ensureFolders (tree : FileTree) (workingFolder : List Text) (path : Path) :
    (depth : Nat) → FileTree × Option FileError
  | 0 =>
    match tree.ensureFolder workingFolder path with
    | .ok tree => (tree, none)
    | .error e => (tree, some e)
  | depth + 1 =>
    match tree.ensureFolder workingFolder path with
    | .ok tree => (tree, none)
    | .error e =>
      if e.flaw = .missing then
        match ensureFolders tree workingFolder path.parent depth with
        | (tree, some e) => (tree, some e)
        | (tree, none) =>
          match tree.ensureFolder workingFolder path with
          | .ok tree => (tree, none)
          | .error e => (tree, some e)
      else (tree, some e)

/-- Writes a file whose folder is there. -/
def write (tree : FileTree) (workingFolder : List Text) (path : Path) (bytes : List UInt8) :
    Except FileError FileTree :=
  match tree.locate workingFolder path with
  | .error flaw => .error ⟨flaw, path⟩
  | .ok place =>
    match tree.get? place with
    | some .folder => .error ⟨.isFolder, path⟩
    | _ => .ok (tree.set place (.file bytes))

/-- Writes a file and makes the folders above it that are missing. -/
def save (tree : FileTree) (workingFolder : List Text) (path : Path) (bytes : List UInt8) :
    FileTree × Option FileError :=
  match tree.ensureFolders workingFolder path.parent path.parts.length with
  | (tree, some e) => (tree, some e)
  | (tree, none) =>
    match tree.write workingFolder path bytes with
    | .ok tree => (tree, none)
    | .error e => (tree, some e)

/-! ### Comparing -/

/-- The files of a tree that an older tree does not have or has with other bytes. -/
def newerFiles (tree older : FileTree) : List (List Text × List UInt8) :=
  tree.entries.filterMap fun (place, entry) =>
    match entry with
    | .folder => none
    | .file bytes => if older.get? place = some entry then none else some (place, bytes)

end FileTree

end PatchReview

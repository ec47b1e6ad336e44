import LineEditor.Charset.Utf8

/-!
# Files

A file system is a value, and an operation on files takes one and gives the next one. A path is
written for somebody who walks along it: whether it leads anywhere depends on the directories on
its way. Files have permission bits, of which those of the owner are obeyed.

## Main definitions

* `FilePath`, `Location`, `FileNode`, `FileSystem`.
* `FileSystem.locate` walks along a path.
* `FileSystem.readText` and `FileSystem.overwrite`.
-/

namespace LineEditor

/-- The names of a path from the top directory. The name `..` leads back to the directory above,
and `.` stays where it is. -/
abbrev FilePath := List Text

namespace FilePath

/-- The name that stays in a directory. -/
def here : Text := ['.']

/-- The name that leads to the directory above. -/
def above : Text := ['.', '.']

/-- The path that is written with slashes between its names. A slash at the end is kept as the
name that stays, because the path then leads to directories only. -/
def ofText (t : Text) : FilePath :=
  let pieces := Text.splitOn '/' t
  let isIdle (name : Text) : Bool := name = [] || name = here
  let names := pieces.filter (!isIdle ·)
  if names ≠ [] ∧ pieces.getLast?.any isIdle then names ++ [here] else names

/-- The path of the directory that holds the last name. -/
def parent (path : FilePath) : FilePath :=
  (path.filter (· ≠ here)).dropLast

/-- The beginnings of a path, from the empty one to the path itself. -/
def beginnings (path : FilePath) : List FilePath :=
  (List.range (path.length + 1)).map path.take

/-- How many octets a name takes. -/
def nameSize (name : Text) : Nat := (Utf8.encode name).length

/-- How many octets a name may take. -/
def nameLimit : Nat := 255

/-- How many octets a path may take, with a slash in front of each name. -/
def sizeLimit : Nat := 4095

/-- A path that can be walked along at all. -/
def isUsable (path : FilePath) : Bool :=
  path.foldr (fun name size => nameSize name + 1 + size) 0 ≤ sizeLimit &&
    path.all (!·.contains '\x00')

end FilePath

/-- The names of the directories from the top one down to a file, and its own name. -/
abbrev Location := List Text

/-- What stands at a location. -/
inductive FileNode
  | file (mode : Nat) (content : Octets)
  | directory
  deriving DecidableEq, Repr

/-- Why a path cannot be walked along. -/
inductive PathError
  /-- A directory on the way does not exist. -/
  | missing
  /-- A file stands where a directory is needed. -/
  | notDirectory
  /-- A name or the whole path is too long, or holds a character that names cannot have. -/
  | unusable
  deriving DecidableEq, Repr

/-- Why a file cannot be read. -/
inductive FileReadError
  | notFound
  /-- It is a directory, may not be read, or does not hold text, or its path is to blame. -/
  | notReadable
  deriving DecidableEq, Repr

/-- Why a file cannot be written. -/
inductive FileWriteError
  /-- A directory on the way to it cannot be made. -/
  | noDirectory
  /-- It cannot be created or opened. -/
  | notWritable
  deriving DecidableEq, Repr

/-- The files and directories that exist. The top directory always does. -/
structure FileSystem where
  nodes : List (Location × FileNode) := []
  deriving DecidableEq, Repr

namespace FileSystem

/-- What stands at a location, if anything. -/
def node? (fs : FileSystem) (l : Location) : Option FileNode :=
  if l = [] then some .directory else fs.nodes.lookup l

/-- Puts a file or a directory at a location. -/
def put (fs : FileSystem) (l : Location) (node : FileNode) : FileSystem :=
  ⟨(l, node) :: fs.nodes.filter (·.1 ≠ l)⟩

/-- Walks along the names of a path. Nothing needs to stand where the last name leads. -/
def locateFrom (fs : FileSystem) (l : Location) : FilePath → Except PathError Location
  | [] => .ok l
  | name :: path =>
    match fs.node? l with
    | none => .error .missing
    | some (.file _ _) => .error .notDirectory
    | some .directory =>
      if name = FilePath.here then fs.locateFrom l path
      else if name = FilePath.above then fs.locateFrom l.dropLast path
      else if FilePath.nameSize name ≤ FilePath.nameLimit then fs.locateFrom (l ++ [name]) path
      else .error .unusable

/-- The location that a path leads to. -/
def locate (fs : FileSystem) (path : FilePath) : Except PathError Location :=
  if path.isUsable then fs.locateFrom [] path else .error .unusable

/-- What a path leads to, if anything. -/
def find? (fs : FileSystem) (path : FilePath) : Option FileNode :=
  match fs.locate path with
  | .ok l => fs.node? l
  | .error _ => none

/-- Whether a path leads to anything. -/
def exists? (fs : FileSystem) (path : FilePath) : Bool :=
  (fs.find? path).isSome

/-- The permission of the owner to read. -/
def isReadable (mode : Nat) : Bool := mode / 0o400 % 2 = 1

/-- The permission of the owner to write. -/
def isWritable (mode : Nat) : Bool := mode / 0o200 % 2 = 1

/-- Reads a whole file as text. -/
def readText (fs : FileSystem) (path : FilePath) : Except FileReadError Text :=
  match fs.locate path with
  | .error .missing => .error .notFound
  | .error _ => .error .notReadable
  | .ok l =>
    match fs.node? l with
    | none => .error .notFound
    | some .directory => .error .notReadable
    | some (.file mode content) =>
      match if isReadable mode then Utf8.decodeStrict? content else none with
      | some t => .ok t
      | none => .error .notReadable

/-- Makes sure that a path leads to a directory, which is made when nothing is there. -/
def makeDirectory? (fs : FileSystem) (path : FilePath) : Option FileSystem :=
  match fs.locate path with
  | .error _ => none
  | .ok l =>
    match fs.node? l with
    | none => some (fs.put l .directory)
    | some .directory => some fs
    | some (.file _ _) => none

/-- Makes directories one after the other. The first one that cannot be made is the last one to
be tried, and those before it stay. -/
def makeEach (fs : FileSystem) : List FilePath → FileSystem × Bool
  | [] => (fs, true)
  | path :: rest =>
    match fs.makeDirectory? path with
    | some fs => fs.makeEach rest
    | none => (fs, false)

/-- Makes the directories that are missing on a path, and says whether it leads to one now. -/
def makeDirectories (fs : FileSystem) (path : FilePath) : FileSystem × Bool :=
  fs.makeEach path.beginnings

/-- Writes a whole file, which gets the given mode whether it existed or not. Directories that
are missing above it are made, and they stay when the file cannot be written. -/
def overwrite (fs : FileSystem) (path : FilePath) (mode : Nat) (content : Octets) :
    FileSystem × Option FileWriteError :=
  match fs.makeDirectories path.parent with
  | (fs, false) => (fs, some .noDirectory)
  | (fs, true) =>
    match fs.locate path with
    | .error _ => (fs, some .notWritable)
    | .ok l =>
      match fs.node? l with
      | some .directory => (fs, some .notWritable)
      | some (.file old _) =>
        -- the old mode decides whether the file can be opened, the new one holds from then on
        if isWritable old then (fs.put l (.file mode content), none)
        else (fs, some .notWritable)
      | none => (fs.put l (.file mode content), none)

/-- Puts a file at a path whatever its permissions are, together with the directories above. -/
def place (fs : FileSystem) (path : FilePath) (mode : Nat) (content : Octets) : FileSystem :=
  let fs := (fs.makeDirectories path.parent).1
  match fs.locate path with
  | .ok l => fs.put l (.file mode content)
  | .error _ => fs

theorem node?_put_self (fs : FileSystem) {l : Location} (h : l ≠ []) (node : FileNode) :
    (fs.put l node).node? l = some node := by
  simp [node?, put, h]

end FileSystem

end LineEditor

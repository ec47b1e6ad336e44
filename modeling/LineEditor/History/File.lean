import LineEditor.History.Basic

/-!
# The history file

A history may be kept in a file with one entry on each line. The file is read when the history is
opened and written as a whole when it is saved.

## Main definitions

* `History.openFile` and `History.save`.
-/

namespace LineEditor.History

/-- The entries that a file holds: its lines, except for empty ones. -/
def entriesOfText (t : Text) : List Text :=
  (Text.lines t).filter (!·.isEmpty)

/-- The text that a file with the given entries holds. -/
def textOfEntries (entries : List Text) : Text :=
  entries.flatMap (· ++ ['\n'])

/-- Opens a history that is kept in a file. A file that does not exist holds no entries. -/
def openFile (fs : FileSystem) (path : FilePath) (capacity : Nat) (permission : FilePermission) :
    Except HistoryError History :=
  match create capacity with
  | .error e => .error e
  | .ok h =>
    let h := { h with file := some ⟨path, permission⟩ }
    match fs.readText path with
    | .ok t => .ok ((entriesOfText t).foldl push h)
    | .error .notFound => .ok h
    | .error .notReadable => .error (.file .reading)

/-- Writes the entries to the file of the history. Without a file there is nothing to do. The files
change even when the history cannot be saved, since directories may have been made for it. -/
def save (h : History) (fs : FileSystem) : FileSystem × Option HistoryError :=
  match h.file with
  | none => (fs, none)
  | some f =>
    match fs.overwrite f.path f.permission.mode (Utf8.encode (textOfEntries h.entries)) with
    | (fs, none) => (fs, none)
    | (fs, some .noDirectory) => (fs, some (.file .creatingDirectory))
    | (fs, some .notWritable) => (fs, some (.file .creating))

end LineEditor.History

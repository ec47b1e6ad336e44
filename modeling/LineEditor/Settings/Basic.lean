import LineEditor.Charset.Basic
import LineEditor.History.File
import LineEditor.Keymap
import LineEditor.Settings.Bindings
import LineEditor.Text.Quote

/-!
# Settings

What a user may configure, and what a session is made of according to it. Every setting has a
default, and a binding that makes no sense is passed over.

## Main definitions

* `Settings`, `HistorySettings`, `EditingSettings`.
* `Settings.keymap` and `HistorySettings.openHistory`.
-/

namespace LineEditor

/-- How the history is kept. Without a file of its own it is kept in one in the home directory. -/
structure HistorySettings where
  enabled : Bool := true
  size : Nat := 500
  file : Option Text := none
  permission : FilePermission := {}
  deriving DecidableEq, Repr

/-- How lines are edited. -/
structure EditingSettings where
  mode : EditMode := .emacs
  continuation : QuoteContinuation := .enabled
  prompt : Text := "oxline> ".toList
  deriving DecidableEq, Repr

/-- All settings. -/
structure Settings where
  history : HistorySettings := {}
  editing : EditingSettings := {}
  charset : Charset := .utf8
  bindings : Bindings := .empty
  deriving DecidableEq, Repr

/-- Where a program runs: its working directory, the user's home directory, and the directory
for configuration files that the user has asked for. -/
structure Surroundings where
  workingDirectory : FilePath := []
  home : Option Text := none
  configHome : Text := []
  deriving DecidableEq, Repr

namespace Surroundings

/-- A path from the top directory. -/
def isAbsolute (t : Text) : Bool :=
  t.head? = some '/'

/-- What a written path means. A path that is not absolute starts in the working directory. -/
def resolve (s : Surroundings) (t : Text) : FilePath :=
  if isAbsolute t then FilePath.ofText t else s.workingDirectory ++ FilePath.ofText t

end Surroundings

namespace HistorySettings

/-- The name of the history file in the home directory. -/
def defaultFile : Text := "/.oxline_history".toList

/-- The file that the history is kept in, if there is a place for it. -/
def filePath? (h : HistorySettings) (s : Surroundings) : Option Text :=
  h.file.or (s.home.map (· ++ defaultFile))

/-- The history according to the settings. One that is switched off is kept in no file. -/
def openHistory (h : HistorySettings) (s : Surroundings) (fs : FileSystem) :
    Except HistoryError History :=
  if !h.enabled then (History.create h.size).map ({ · with enabled := false })
  else
    match h.filePath? s with
    | some t => History.openFile fs (s.resolve t) h.size h.permission
    | none => History.create h.size

end HistorySettings

namespace Settings

/-- Adds a binding, if its action is known and its key makes sense. -/
def addBinding (known : String → Bool) (m : Keymap) (binding : Text × Text) : Keymap :=
  let action := String.ofList binding.2
  if known action then
    match m.bindSpec binding.1 action with
    | .ok (m, _) => m
    | .error _ => m
  else m

/-- The keymap according to the settings: that of the mode, with the bindings added in order. -/
def keymap (s : Settings) (known : String → Bool) : Keymap :=
  s.bindings.entries.foldl (addBinding known) (.ofMode s.editing.mode)

end Settings

end LineEditor

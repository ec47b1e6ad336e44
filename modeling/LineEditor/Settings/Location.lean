import LineEditor.Settings.Document

/-!
# Where settings are found

Settings are looked for in the working directory and then in the user's configuration directory.
A file that is missing or cannot be used stands for the defaults.

## Main definitions

* `Surroundings.settingsPath`.
* `Settings.load` and `LoadedSettings`.
-/

namespace LineEditor

namespace Surroundings

/-- The name of the settings file. -/
def settingsName : Text := "oxline.toml".toList

/-- The directory for configuration files: what the user has asked for, if that is an absolute
path, and a directory in the home directory otherwise. -/
def configDirectory? (s : Surroundings) : Option FilePath :=
  if isAbsolute s.configHome then some (FilePath.ofText s.configHome)
  else s.home.map (FilePath.ofText · ++ [".config".toList])

/-- The settings file in the working directory. -/
def localSettings (s : Surroundings) : FilePath :=
  s.workingDirectory ++ [settingsName]

/-- The settings file that counts: that in the working directory if it exists. -/
def settingsPath (s : Surroundings) (fs : FileSystem) : FilePath :=
  if fs.exists? s.localSettings then s.localSettings
  else
    match s.configDirectory? with
    | some directory => directory ++ ["oxline".toList, settingsName]
    | none => s.localSettings

end Surroundings

/-- Settings and the text that they were read from, if they were read from one. -/
structure LoadedSettings where
  raw : Option Text := none
  settings : Settings := {}
  deriving DecidableEq, Repr

/-- Loads settings from a file. -/
def Settings.load (fs : FileSystem) (path : FilePath) : LoadedSettings :=
  match fs.readText path with
  | .error _ => {}
  | .ok t =>
    match Settings.ofText? t with
    | some settings => { raw := some t, settings }
    | none => {}

end LineEditor

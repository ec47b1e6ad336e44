import LineEditor.CommandLine
import LineEditor.Settings.Location
import LineEditor.Shell

/-!
# The program

The shell on standard input and output. The files that matter are read into a file system value
before the shell starts, and the history is written back after it has stopped.

## Main definitions

* `main`.
-/

namespace LineEditor.Program

/-- The name that the program reports under. -/
def programName : String := "oxline"

/-- What is written for help. -/
def usage : String :=
  "Line editor demo shell\n\nUsage: " ++ programName ++ " [--config <FILE>] [--log-dir <DIR>]"

/-- What is written when the program does not start, and whether that is a failure. -/
def refusalReport : CommandLine.Refusal → String × Bool
  | .help => (usage, false)
  | .version => (programName ++ " 0.0.1", false)
  | .unknownArgument => ("error: unexpected argument\n\n" ++ usage, true)
  | .invalidValue => ("error: a value is required\n\n" ++ usage, true)
  | .conflict => ("error: an option cannot be used multiple times\n\n" ++ usage, true)
  | .tooManyValues => ("error: unexpected value\n\n" ++ usage, true)

/-- The written form of a path. -/
def pathString (path : FilePath) : String :=
  String.ofList (path.flatMap ('/' :: ·))

/-- Reads a file into a file system, if it is there. -/
def readInto (fs : FileSystem) (path : FilePath) : IO FileSystem := do
  try
    let content ← IO.FS.readBinFile (pathString path)
    return fs.place path 0o600 content.toList
  catch _ =>
    return fs

/-- Where the program runs. -/
def surroundings : IO Surroundings := do
  let directory := (← IO.currentDir).toString
  let home ← IO.getEnv "HOME"
  let configHome ← IO.getEnv "XDG_CONFIG_HOME"
  return {
    workingDirectory := FilePath.ofText directory.toList
    home := home.map String.toList
    configHome := (configHome.getD "").toList }

/-- Reads the settings file that counts. -/
def loadSettings (s : Surroundings) (chosen : Option Text) : IO Settings := do
  -- whether there is a file in the working directory decides where to look further
  let fs ← readInto {} s.localSettings
  let path := (chosen.map s.resolve).getD (s.settingsPath fs)
  let fs ← readInto fs path
  return (Settings.load fs path).settings

/-- The rights that three bits of a mode grant. -/
def accessRight (bits : Nat) : IO.AccessRight :=
  { read := bits / 4 % 2 = 1, write := bits / 2 % 2 = 1, execution := bits % 2 = 1 }

/-- Writes a file of a file system to the disk. -/
def writeOut (fs : FileSystem) (path : FilePath) : IO Unit := do
  match fs.find? path with
  | some (.file mode content) =>
    IO.FS.createDirAll (pathString path.parent)
    IO.FS.writeBinFile (pathString path) (ByteArray.mk content.toArray)
    IO.setAccessRights (pathString path)
      { user := accessRight (mode / 64), group := accessRight (mode / 8),
        other := accessRight mode }
  | _ => return ()

/-- Writes what waits for the terminal. -/
def flushOutput (output : IO.FS.Stream) (s : Shell) : IO Shell := do
  let (s, octets) := s.takeWritten
  output.write (ByteArray.mk octets.toArray)
  output.flush
  return s

/-- Answers events and reads input until the shell stops. -/
partial def attend (input output : IO.FS.Stream) (d : Decoder) (s : Shell) : IO Shell := do
  let s ← flushOutput output s
  match s.takeEvent? with
  | some (event, s) =>
    match s.handle event with
    | (s, none) => attend input output d s
    | (s, some _) => flushOutput output s
  | none =>
    -- no octets mean the end of the input, which closes the connection
    let octets ← input.read readSize.toUSize
    let (d, online) := s.online.takeRead (Session.hear Shell.next) d (.octets octets.toList)
    attend input output d { s with online }

/-- Runs the shell with the given settings and saves its history. -/
def runShell (surroundings : Surroundings) (settings : Settings) : IO UInt32 := do
  let path := (settings.history.filePath? surroundings).map surroundings.resolve
  let fs ← (path.toList.foldlM readInto {} : IO FileSystem)
  match Session.engineOfSettings settings surroundings fs with
  | .error e =>
    IO.eprintln (String.ofList e.message)
    return 1
  | .ok engine =>
    let engine := engine.onEditor ({ · with completers := [Shell.completer] })
    let line : Connection Listener :=
      { charset := settings.charset, onInterrupt := some .interrupt, onClose := some .close }
    let shell : Shell :=
      { online := Session.online engine line, prompt := { text := settings.editing.prompt } }
    let shell ← attend (← IO.getStdin) (← IO.getStdout) { charset := settings.charset } shell.arm
    match shell.history.save fs with
    | (fs, none) =>
      if shell.history.file.isSome then
        path.toList.forM (writeOut fs)
    | (_, some e) =>
      IO.eprintln (programName ++ ": could not save history: " ++ String.ofList e.message)
    return 0

end LineEditor.Program

open LineEditor LineEditor.Program in
/-- Runs the shell as the arguments say. -/
def main (arguments : List String) : IO UInt32 := do
  match CommandLine.ofArguments (arguments.map String.toList) with
  | .error refusal =>
    let (report, failed) := refusalReport refusal
    if failed then
      IO.eprintln report
      return 2
    else
      IO.println report
      return 0
  | .ok chosen =>
    let s ← surroundings
    let settings ← loadSettings s chosen.config
    runShell s settings

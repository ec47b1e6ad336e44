import LineEditor.Session

/-!
# The shell

A small shell that reads lines and answers each of them. It knows a few commands and echoes
everything else. After every event it reads the next line, until a command or the end of the
connection stops it.

## Main definitions

* `Reply`, `Reply.ofLine`.
* `Shell.handle` is what the shell does with an event.
* `Shell.run` runs the shell on given input.
-/

namespace LineEditor

/-- The answer to a line. -/
inductive Reply
  | print (t : Text)
  | clear
  | exit
  deriving DecidableEq, Repr

namespace Reply

/-- The commands of the shell. -/
def commands : List Text :=
  ["exit".toList, "help".toList, "history".toList, "clear".toList]

/-- One entry of the history with its number. -/
def numbered (number : Nat) (entry : Text) : Text :=
  Text.padLeft 4 (Text.ofNat number) ++ ' ' :: ' ' :: entry

/-- The history with numbers from one. -/
def listing (history : List Text) : Text :=
  lineBreak.intercalate (history.mapIdx fun i entry => numbered (i + 1) entry)

/-- The answer to a line, given the history. White space around a command does not matter. -/
def ofLine (line : Text) (history : List Text) : Reply :=
  let command := String.ofList line.trimBoth
  if command = "exit" then exit
  else if command = "clear" then clear
  else if command = "help" then
    print ("commands: ".toList ++ [' '].intercalate commands)
  else if command = "history" then print (listing history)
  else if command = "" then print []
  else print ("echo: ".toList ++ line)

end Reply

/-- Why a shell has stopped. -/
inductive ShutdownReason
  | exitCommand
  | streamClosed
  deriving DecidableEq, Repr

/-- The report of a reason. -/
def ShutdownReason.message : ShutdownReason → String
  | .exitCommand => "exit_command"
  | .streamClosed => "stream_closed"

/-- What comes from outside: text, an interrupt, or the end of the connection. -/
inductive ShellInput
  | text (t : Text)
  | interrupt
  | close (report : Text)
  deriving DecidableEq, Repr

/-- The number of events that an input can lead to. -/
def ShellInput.weight : ShellInput → Nat
  | .text t => t.length + 1
  | _ => 1

/-- A shell: its session, and the prompt of every read. -/
structure Shell where
  online : OnlineSession Unit
  prompt : Prompt

namespace Shell

/-- The completer for the commands. -/
def completer : Completer := .wordList Reply.commands

/-- No read follows from another one: the shell answers first. -/
def next : Unit → Option (Prompt × Unit) := fun _ => none

/-- Writes to the terminal. -/
def write (t : Text) (s : Shell) : Shell :=
  { s with online := s.online.onLine (·.send t) }

/-- Starts the next read. -/
def arm (s : Shell) : Shell :=
  { s with online := Session.start next s.prompt () s.online }

/-- The history of the session. -/
def history (s : Shell) : History :=
  s.online.state.reader.engine.editor.history

/-- What is written to clear the screen. -/
def clearScreen : Text := "\x1b[2J\x1b[H".toList

/-- What is written for a reply, unless it stops the shell. -/
def replyOutput : Reply → Option Text
  | .exit => none
  | .clear => some clearScreen
  | .print t => some (if t.isEmpty then [] else t ++ lineBreak)

/-- Throws away the line that is being edited. -/
def interrupt (s : Shell) : Shell :=
  write ("^C".toList ++ lineBreak)
    { s with online := Session.onEngine (·.onEditor (·.onConsole (·.reset))) s.online }

/-- What the shell does with an event: it answers and starts the next read, or it stops. -/
def handle (event : SessionEvent) (s : Shell) : Shell × Option ShutdownReason :=
  match event with
  | .line t =>
    match replyOutput (Reply.ofLine t s.history.entries) with
    | none => (s, some .exitCommand)
    | some output => ((s.write output).arm, none)
  | .interrupt => (s.interrupt.arm, none)
  | .closed _ => (s, some .streamClosed)

/-- Takes input from outside. -/
def accept (input : ShellInput) (s : Shell) : Shell :=
  match input with
  | .text t => { s with online := (Session.type next t s.online).1 }
  | .interrupt => { s with online := Session.report .interrupt s.online }
  | .close report => { s with online := Session.report (.closed report) s.online }

/-- Takes the oldest event, if there is one. -/
def takeEvent? (s : Shell) : Option (SessionEvent × Shell) :=
  match s.online.state.events with
  | [] => none
  | event :: events =>
    some (event, { s with online := { s.online with state := { s.online.state with events } } })

/-- Waits for an event: takes input until there is one. When no input is left, the stream has
ended. -/
def await : List ShellInput → Shell → SessionEvent × List ShellInput × Shell
  | [], s =>
    match s.takeEvent? with
    | some (event, s) => (event, [], s)
    | none => (.closed CloseReason.endOfStream.message, [], s)
  | input :: rest, s =>
    match s.takeEvent? with
    -- events that are there come before any further input
    | some (event, s) => (event, input :: rest, s)
    | none => await rest (s.accept input)

/-- Takes what has been written. -/
def takeWritten (s : Shell) : Shell × Octets :=
  let (line, octets) := s.online.line.takeWritten
  ({ s with online := { s.online with line } }, octets)

/-- The course of a run: what was written before each wait and after the last one, and why the
shell stopped. -/
structure Transcript where
  outputs : List Octets
  lastOutput : Octets
  reason : ShutdownReason
  deriving DecidableEq, Repr

/-- Runs the shell for at most `fuel` more waits. -/
def runWithin : Nat → List ShellInput → Shell → Shell × Transcript
  | 0, _, s =>
    let (s, lastOutput) := s.takeWritten
    (s, ⟨[], lastOutput, .streamClosed⟩)
  | fuel + 1, inputs, s =>
    let (s, output) := s.takeWritten
    let (event, inputs, s) := await inputs s
    let (s, transcript) : Shell × Transcript :=
      match s.handle event with
      | (s, some reason) =>
        let (s, lastOutput) := s.takeWritten
        (s, ⟨[], lastOutput, reason⟩)
      | (s, none) => runWithin fuel inputs s
    (s, { transcript with outputs := output :: transcript.outputs })

/-- Runs the shell on the given input, starting with a read. No character leads to more than one
line, which bounds the number of waits. -/
def run (inputs : List ShellInput) (s : Shell) : Shell × Transcript :=
  let waits := s.online.state.events.length + s.online.state.reader.engine.queue.length +
    inputs.foldr (·.weight + ·) 0 + 1
  runWithin waits inputs s.arm

end Shell

end LineEditor

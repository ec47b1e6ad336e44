import LineEditor.Engine

/-!
# Reading lines

Lines are asked for one at a time. To start a read the prompt is drawn and input that waits is
replayed; then a listener for further input is armed. The listener of a read feeds the engine and
runs it until the line of that read is accepted. What comes in later waits for the next read.

The two halves of starting a read, and the listener, are steps of their own, since input may come
in between them. Each read is known by a number, and a listener that was replaced may still be
told about input that it was already chosen for.

## Main definitions

* `LineReader`.
* `LineReader.begin`, `LineReader.arm` start a read.
* `LineReader.receive` is what the listener does.
-/

namespace LineEditor

/-- An engine and, for each read that was started, what is to be done with its line as long as it
waits for one. -/
structure LineReader (κ : Type) where
  engine : Engine
  waiting : List (Option κ) := []

namespace LineReader

variable {κ : Type}

/-- Starts a read: draws the prompt and replays input that waits, which may complete the line
already. The last two components are what is to be written, and that line. -/
def begin (r : LineReader κ) (prompt : Prompt) (width : Nat) :
    LineReader κ × Text × Option Text :=
  let started := r.engine.onEditor fun e => (e.setWidth width).beginLine prompt
  let (engine, line) := started.run
  let (engine, output) := engine.takeOutput
  ({ r with engine }, output, line)

/-- Gives a read its number. A read whose line has been replayed waits for nothing. -/
def arm (r : LineReader κ) (wanted : Option κ) : LineReader κ × Nat :=
  ({ r with waiting := r.waiting ++ [wanted] }, r.waiting.length)

/-- What a read is waiting for. -/
def wanted? (r : LineReader κ) (read : Nat) : Option κ :=
  (r.waiting[read]?).join

/-- Takes a chunk of input for a read. It is always fed to the engine, but run only while the read
waits for its line. The last two components are what is to be written, and the line with what is
to be done with it. -/
def receive (r : LineReader κ) (read : Nat) (chunk : Text) :
    LineReader κ × Text × Option (κ × Text) :=
  let fed := r.engine.feed chunk
  match r.wanted? read with
  -- this read has its line: what comes in now is for the next one
  | none => ({ r with engine := fed }, [], none)
  | some k =>
    let (engine, line) := fed.run
    let (engine, output) := engine.takeOutput
    match line with
    | none => ({ r with engine }, output, none)
    | some line => ({ engine, waiting := r.waiting.set read none }, output, some (k, line))

end LineReader

end LineEditor

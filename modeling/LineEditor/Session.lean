import LineEditor.Connection.Reading
import LineEditor.LineReader
import LineEditor.Settings.Basic

/-!
# Sessions

A session reads lines from a connection. It listens to input and to the size of the terminal, and
notes what happens as events: lines that were read, interrupts, and the end of the connection.
A read may be followed by another one at once, before anything else is looked at.

## Main definitions

* `Session`, `SessionEvent`, `Listener`.
* `Session.start` starts a read, and `Session.hear` is what the listeners of a session do.
* `Session.engineOfSettings` makes the engine of a session.
-/

namespace LineEditor

/-- What a session reports. -/
inductive SessionEvent
  | line (t : Text)
  | interrupt
  | closed (report : Text)
  deriving DecidableEq, Repr

/-- The line that an event reports. -/
def SessionEvent.line? : SessionEvent → Option Text
  | .line t => some t
  | _ => none

/-- The end of a connection that an event reports. -/
def SessionEvent.closing? : SessionEvent → Option Text
  | .closed report => some report
  | _ => none

/-- Who listens to a connection for a session: a read to input, and others to all else. -/
inductive Listener
  | read (number : Nat)
  | size
  | interrupt
  | close
  deriving DecidableEq, Repr

/-- A reader of lines and the events that nobody has looked at yet, with the oldest first. -/
structure Session (κ : Type) where
  reader : LineReader κ
  events : List SessionEvent := []

/-- A session on its connection. -/
abbrev OnlineSession (κ : Type) := Wired (Session κ) Listener

namespace Session

/-- The engine of a session with the given parts. It gets its prompts later. -/
def engineOf (history : History) (keymap : Keymap) (continuation : QuoteContinuation) : Engine :=
  { editor := .new {} history keymap continuation }

/-- The engine according to settings. Bindings of unknown actions are left out. -/
def engineOfSettings (settings : Settings) (s : Surroundings) (fs : FileSystem) :
    Except HistoryError Engine :=
  (settings.history.openHistory s fs).map fun history =>
    engineOf history (settings.keymap ActionRegistry.builtin.contains)
      settings.editing.continuation

/-- An engine on a connection. -/
def online {κ : Type} (engine : Engine) (line : Connection Listener) : OnlineSession κ :=
  { state := { reader := { engine } }, line }

variable {κ : Type}

/-- Applies a change of the engine. -/
def onEngine (f : Engine → Engine) (w : OnlineSession κ) : OnlineSession κ :=
  let reader := { w.state.reader with engine := f w.state.reader.engine }
  { w with state := { w.state with reader } }

/-- Adds an event. -/
def report (event : SessionEvent) (w : OnlineSession κ) : OnlineSession κ :=
  { w with state := { w.state with events := w.state.events ++ [event] } }

/-- Takes all events. -/
def takeEvents (w : OnlineSession κ) : OnlineSession κ × List SessionEvent :=
  ({ w with state := { w.state with events := [] } }, w.state.events)

/-- Puts a reader that has done something in place, and writes what it wants to be written. -/
def settle (reader : LineReader κ) (output : Text) (w : OnlineSession κ) : OnlineSession κ :=
  { w with state := { w.state with reader } }.onLine (·.send output)

/-- Gives a read its number and lets it listen. -/
def listen (wanted : Option κ) (w : OnlineSession κ) : OnlineSession κ :=
  let (reader, number) := w.state.reader.arm wanted
  { w with state := { w.state with reader } }.onLine fun c =>
    { c with onInput := some (.read number), onResize := some .size }

variable (next : κ → Option (Prompt × κ))

/-- Starts a read, and the reads that follow from it as long as their lines are replayed, at most
`fuel` of them. -/
def startWithin : Nat → Prompt → κ → OnlineSession κ → OnlineSession κ
  | fuel, prompt, k, w =>
    let (reader, output, replayed) := w.state.reader.begin prompt w.line.size.columns
    let begun := settle reader output w
    match replayed with
    | none => listen (some k) begun
    | some line =>
      -- later input is heard and kept, though nobody waits for it
      let w := report (.line line) (listen none begun)
      match fuel, next k with
      | fuel + 1, some (prompt, k) => startWithin fuel prompt k w
      | _, _ => w

/-- Starts a read. A replayed line takes at least one unit of input that waits, so that no more
reads can follow at once than there are of these. -/
def start (prompt : Prompt) (k : κ) (w : OnlineSession κ) : OnlineSession κ :=
  startWithin next w.state.reader.engine.queue.length prompt k w

/-- Reports a line, and starts the read that follows, if any. -/
def deliverLine (k : κ) (line : Text) (w : OnlineSession κ) : OnlineSession κ :=
  match next k with
  | none => report (.line line) w
  | some (prompt, k) => start next prompt k (report (.line line) w)

/-- What the listeners of a session do. -/
def hear : Hearing (Session κ) Listener
  | .read number, .input t, w =>
    let (reader, output, delivery) := w.state.reader.receive number t
    let w := settle reader output w
    match delivery with
    | none => w
    | some (k, line) => deliverLine next k line w
  | .size, .resized size, w => onEngine (·.onEditor (·.setWidth size.columns)) w
  | .interrupt, .interrupt, w => report .interrupt w
  | .close, .closed reason, w => report (.closed reason.message) w
  | _, _, w => w

/-- Hands text to the read that listens, and tells whether there is one. -/
def type (t : Text) (w : OnlineSession κ) : OnlineSession κ × Bool :=
  (w.tell (hear next) w.line.onInput (.input t), w.line.onInput.isSome)

end Session

end LineEditor

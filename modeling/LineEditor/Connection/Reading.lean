import LineEditor.Connection.Basic

/-!
# The reading loop

The loop takes one read after the other, decodes it and tells the listener. It ends when the
connection is closed, which the end of the stream and a failure do themselves. Listeners may close
the connection too, or change who listens.

## Main definitions

* `Wired` is a connection together with the state of its listeners, and `Hearing` says what the
  listeners do.
* `Wired.close`, `Wired.resize`, `Wired.deliver` tell the listeners.
* `Wired.takeRead` is one round of the loop and `Wired.runLoop` the whole of it.
-/

namespace LineEditor

/-- A connection and the state of those who listen to it. -/
structure Wired (σ η : Type) where
  state : σ
  line : Connection η

/-- What listeners do when they are told something. -/
abbrev Hearing (σ η : Type) := η → ConnectionEvent → Wired σ η → Wired σ η

namespace Wired

variable {σ η : Type} (hear : Hearing σ η)

/-- Applies a change of the connection. -/
def onLine (w : Wired σ η) (f : Connection η → Connection η) : Wired σ η :=
  { w with line := f w.line }

/-- Tells a listener, if there is one. -/
def tell (listener : Option η) (event : ConnectionEvent) (w : Wired σ η) : Wired σ η :=
  match listener with
  | some l => hear l event w
  | none => w

/-- Closes the connection. Only the first time counts, and the listener is told once. -/
def close (reason : CloseReason) (w : Wired σ η) : Wired σ η :=
  if w.line.isClosed then w
  else tell hear w.line.onClose (.closed reason)
    (w.onLine fun c => { c with isClosed := true, onClose := none })

/-- Notes a new size of the terminal. -/
def resize (size : TerminalSize) (w : Wired σ η) : Wired σ η :=
  tell hear w.line.onResize (.resized size) (w.onLine fun c => { c with size })

/-- The character of an interrupt. -/
def interruptChar : Char := '\x03'

/-- Hands decoded text over. An interrupt that comes alone goes to the listener for interrupts if
there is one. -/
def deliver (t : Text) (w : Wired σ η) : Wired σ η :=
  if t = [interruptChar] ∧ w.line.onInterrupt.isSome then
    tell hear w.line.onInterrupt .interrupt w
  else tell hear w.line.onInput (.input t) w

/-- One round of the loop. -/
def takeRead (d : Decoder) (w : Wired σ η) : ReadResult → Decoder × Wired σ η
  | .octets [] => (d, w.close hear .endOfStream)
  | .octets o =>
    let (d, t) := d.decode o
    (d, if t.isEmpty then w else w.deliver hear t)
  | .interrupted => (d, w)
  | .failed report => (d, w.close hear (.failed report))

/-- The rounds of the loop for the reads that are still to come. After the last of them the stream
ends. -/
def loop : List ReadResult → Decoder → Wired σ η → Wired σ η
  | [], _, w => w.close hear .endOfStream
  | r :: rest, d, w =>
    -- a listener may have closed the connection in the round before
    if w.line.isClosed then w
    else
      let (d, w) := takeRead hear d w r
      loop rest d w

/-- Runs the loop, unless that was done before. -/
def runLoop (w : Wired σ η) : Wired σ η :=
  match w.line.reads with
  | none => w
  | some reads =>
    loop hear reads { charset := w.line.charset } (w.onLine fun c => { c with reads := none })

theorem close_of_isClosed (reason : CloseReason) (w : Wired σ η) (h : w.line.isClosed = true) :
    w.close hear reason = w := by
  simp [close, h]

/-- Nothing is read from a closed connection. -/
theorem loop_of_isClosed (reads : List ReadResult) (d : Decoder) (w : Wired σ η)
    (h : w.line.isClosed = true) : w.loop hear reads d = w := by
  cases reads <;> simp [loop, close, h]

end Wired

end LineEditor

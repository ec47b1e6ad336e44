import LineEditor.Charset.Basic

/-!
# Connections

A connection brings octets from a terminal and takes octets to it. It has a slot for each kind of
thing that may happen, and whoever listens there is told. Setting a slot replaces the listener
that was there before.

Listeners are plain values; what they do when they are told is said elsewhere, so that a
connection can be looked at without them.

## Main definitions

* `Connection`, `ConnectionEvent`, `CloseReason`.
* `Connection.write`.
-/

namespace LineEditor

/-- The size of a terminal in cells. -/
structure TerminalSize where
  columns : Nat := 80
  rows : Nat := 24
  deriving DecidableEq, Repr

/-- Why a connection was closed. -/
inductive CloseReason
  | requested
  | endOfStream
  | failed (report : Text)
  deriving DecidableEq, Repr

/-- The report of a reason. -/
def CloseReason.message : CloseReason → Text
  | .requested => "requested".toList
  | .endOfStream => "end of stream".toList
  | .failed report => "read failed: ".toList ++ report

/-- What listeners are told. -/
inductive ConnectionEvent
  | input (t : Text)
  | interrupt
  | resized (size : TerminalSize)
  | closed (reason : CloseReason)
  deriving DecidableEq, Repr

/-- The result of one read. A read of no octets is the end of the stream. -/
inductive ReadResult
  | octets (o : Octets)
  /-- The read was broken off and may be tried again. -/
  | interrupted
  | failed (report : Text)
  deriving DecidableEq, Repr

/-- How many octets one read brings at most. -/
def readSize : Nat := 1024

/-- The reads, at most `fuel` of them, that bring the given octets. -/
def ReadResult.chunksWithin : Nat → Octets → List ReadResult
  | 0, _ => []
  | fuel + 1, o =>
    if o.length ≤ readSize then [.octets o]
    else .octets (o.take readSize) :: chunksWithin fuel (o.drop readSize)

/-- The reads that bring the given octets. No octets are one read all the same. -/
def ReadResult.chunks (o : Octets) : List ReadResult :=
  chunksWithin (o.length + 1) o

/-- Why octets cannot be written. -/
inductive WriteError
  | sinkBroken
  deriving DecidableEq, Repr

/-- The report of an error. -/
def WriteError.message : WriteError → Text
  | .sinkBroken => "sink broken".toList

/-- A connection with listeners in `η`. The reads that are still to come are there until the
reading loop takes them, and `written` holds the octets that went to the terminal. -/
structure Connection (η : Type) where
  charset : Charset := .utf8
  size : TerminalSize := {}
  reads : Option (List ReadResult) := some []
  isClosed : Bool := false
  onInput : Option η := none
  onInterrupt : Option η := none
  onResize : Option η := none
  onClose : Option η := none
  isBroken : Bool := false
  written : Octets := []
  deriving DecidableEq, Repr

namespace Connection

variable {η : Type}

/-- Writes a text in the charset of the connection. A broken sink takes nothing, but then to
write nothing is no failure. -/
def write (c : Connection η) (t : Text) : Except WriteError (Connection η) :=
  let octets := c.charset.encode t
  if c.isBroken ∧ octets ≠ [] then .error .sinkBroken
  else .ok { c with written := c.written ++ octets }

/-- Writes a text and does not care whether that works. -/
def send (c : Connection η) (t : Text) : Connection η :=
  match c.write t with
  | .ok c => c
  | .error _ => c

/-- Takes the octets that have been written. -/
def takeWritten (c : Connection η) : Connection η × Octets :=
  ({ c with written := [] }, c.written)

theorem send_of_not_isBroken (c : Connection η) (t : Text) (h : c.isBroken = false) :
    (c.send t).written = c.written ++ c.charset.encode t := by
  simp [send, write, h]

@[simp]
theorem isClosed_send (c : Connection η) (t : Text) : (c.send t).isClosed = c.isClosed := by
  by_cases h : c.isBroken = true ∧ c.charset.encode t ≠ []
  · simp [send, write, h]
  · simp [send, write, h]

end Connection

end LineEditor

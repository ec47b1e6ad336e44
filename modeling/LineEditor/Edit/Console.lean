import LineEditor.Edit.KillRing
import LineEditor.Edit.Undo

/-!
# The console

A buffer together with what its edits leave behind: snapshots for undo, removed text for the kill
ring, and output that waits to be written to the terminal. Every edit of the line goes through
the functions below, which take the snapshot first. An edit whose guard finds nothing to do leaves
all of it alone.

## Main definitions

* `Console` and its edits, each with a count of what it removed or whether it did anything.
* `Console.draw`, `Console.write` and `Console.takeOutput`; `Console.output` is the text that
  waits.
-/

namespace LineEditor

/-- A buffer, its undo stack and kill ring, and the pieces of output that wait, with the newest
first. -/
structure Console where
  buffer : Buffer := {}
  undoStack : UndoStack := {}
  kills : KillRing := {}
  outbox : List Text := []
  deriving DecidableEq, Repr

namespace Console

/-- An empty line under a prompt. -/
def ofPrompt (prompt : Prompt) : Console :=
  { buffer := .ofPrompt prompt }

/-- Applies a change of the buffer that undo need not know about: cursor moves, prompts, modes. -/
def onBuffer (c : Console) (f : Buffer → Buffer) : Console :=
  { c with buffer := f c.buffer }

/-- Takes the snapshot for an edit that is undone on its own. -/
def snapshot (c : Console) : Console :=
  { c with undoStack := c.undoStack.pushEdit c.buffer }

/-- Inserts typed text as part of the run of insertions that is going on. -/
def insert (c : Console) (t : Text) : Console :=
  if t.isEmpty then c
  else
    { c with
      undoStack := (c.undoStack.beginRun c.buffer).noteEdit
      buffer := c.buffer.insert t }

/-- Inserts text as one edit of its own. -/
def insertDiscrete (c : Console) (t : Text) : Console :=
  if t.isEmpty then c else c.snapshot.onBuffer (·.insert t)

/-- Ends the run of insertions. -/
def endRun (c : Console) : Console :=
  { c with undoStack := c.undoStack.endRun }

/-- An edit that removes text: a snapshot, the removal, and the removed text in the kill ring. -/
def remove (c : Console) (edit : Buffer → Buffer × Text) : Console × Nat :=
  -- the snapshot shows the buffer as it was before the removal
  let (buffer, removed) := edit c.buffer
  ({ c.snapshot with buffer, kills := c.kills.add removed }, removed.length)

/-- Removes up to `n` characters at the cursor. -/
def deleteForward (c : Console) (n : Nat) : Console × Nat :=
  if c.buffer.line.length ≤ c.buffer.cursor then (c, 0) else c.remove (·.deleteForward n)

/-- Removes up to `n` characters before the cursor. -/
def deletePrevious (c : Console) (n : Nat) : Console × Nat :=
  if c.buffer.cursor = 0 then (c, 0) else c.remove (·.deletePrevious n)

/-- Removes the characters from `start` up to `stop` and puts the cursor in their place. -/
def deleteRange (c : Console) (start stop : Nat) : Console × Nat :=
  if stop ≤ start ∨ c.buffer.line.length ≤ start then (c, 0)
  else c.remove (·.deleteRange start stop)

/-- Removes everything from the cursor on. -/
def killToEnd (c : Console) : Console × Nat :=
  c.deleteRange c.buffer.cursor c.buffer.line.length

/-- Removes everything before the cursor. -/
def killToStart (c : Console) : Console × Nat :=
  c.deleteRange 0 c.buffer.cursor

/-- Removes the whole line. -/
def deleteLine (c : Console) : Console × Nat :=
  c.deleteRange 0 c.buffer.line.length

/-- Overwrites the character at `pos`, and tells whether there is one. -/
def replaceChar (c : Console) (ch : Char) (pos : Nat) : Console × Bool :=
  if c.buffer.line.length ≤ pos then (c, false)
  else (c.snapshot.onBuffer fun b => (b.replaceChar ch pos).1, true)

/-- Puts a text in place of the line, unless it is the line already. -/
def replaceLine (c : Console) (t : Text) : Console :=
  if c.buffer.line = t then c else c.snapshot.onBuffer (·.replace t)

/-- Inserts the newest text of the kill ring, and tells whether there is one. -/
def yank (c : Console) : Console × Bool :=
  match c.kills.newest? with
  | none => (c, false)
  | some t => (c.insertDiscrete t, true)

/-- Undoes the last edit, and tells whether there was one. -/
def undo (c : Console) : Console × Bool :=
  let (undoStack, buffer, done) := c.undoStack.undo c.buffer
  ({ c with undoStack, buffer }, done)

/-- Forgets how to undo. -/
def clearUndo (c : Console) : Console :=
  { c with undoStack := c.undoStack.clear }

/-- Adds to the output that waits. -/
def write (c : Console) (t : Text) : Console :=
  { c with outbox := t :: c.outbox }

/-- The output that waits. -/
def output (c : Console) : Text :=
  c.outbox.reverse.flatten

/-- Draws the prompt and the line anew. -/
def draw (c : Console) : Console :=
  c.write c.buffer.drawing

/-- Removes the whole line and draws it: where nothing is shown of the input, nobody could see
what a smaller edit removes. -/
def deleteUnseen (c : Console) : Console × Nat :=
  let (c, n) := c.deleteLine
  (c.draw, n)

/-- An empty line for the next read. -/
def reset (c : Console) : Console :=
  { c with buffer := c.buffer.reset, undoStack := c.undoStack.clear }

/-- Takes all of the output that waits. -/
def takeOutput (c : Console) : Console × Text :=
  ({ c with outbox := [] }, c.output)

@[simp]
theorem output_write (c : Console) (t : Text) : (c.write t).output = c.output ++ t := by
  simp [write, output]

@[simp]
theorem buffer_write (c : Console) (t : Text) : (c.write t).buffer = c.buffer := rfl

@[simp]
theorem output_draw (c : Console) : c.draw.output = c.output ++ c.buffer.drawing :=
  output_write c c.buffer.drawing

@[simp]
theorem buffer_draw (c : Console) : c.draw.buffer = c.buffer := rfl

@[simp]
theorem buffer_snapshot (c : Console) : c.snapshot.buffer = c.buffer := rfl

@[simp]
theorem insert_nil (c : Console) : c.insert [] = c := rfl

@[simp]
theorem insertDiscrete_nil (c : Console) : c.insertDiscrete [] = c := rfl

end Console

end LineEditor

import LineEditor.Edit.Buffer

/-!
# Undo

Before an edit the line and the cursor are put on a stack, and undo takes the newest pair off it.
A run of typed characters counts as one edit, for which the stack is asked once at its start.
There is no redo.

## Main definitions

* `Snapshot`, `UndoStack`.
* `UndoStack.push`, `UndoStack.beginRun`, `UndoStack.endRun` and `UndoStack.undo`.
-/

namespace LineEditor

/-- A line and its cursor at one moment. -/
structure Snapshot where
  line : Text
  cursor : Nat
  deriving DecidableEq, Repr

/-- What undo would have to restore to come back to this buffer. -/
def Buffer.snapshot (b : Buffer) : Snapshot := ⟨b.line, b.cursor⟩

/-- Puts a line and its cursor back. -/
def Buffer.restore (b : Buffer) (s : Snapshot) : Buffer :=
  (b.replace s.line).setCursor s.cursor

/-- A snapshot whose cursor stands in its line is restored as it is. -/
theorem Buffer.restore_eq {s : Snapshot} (h : s.cursor ≤ s.line.length) (b : Buffer) :
    b.restore s = { b with line := s.line, cursor := s.cursor } := by
  rw [restore, setCursor, replace, Nat.min_eq_left h]

/-- Snapshots with the newest first, the number of edits in the run of insertions that is going
on, and how often a snapshot was not taken because the newest one was the same. -/
structure UndoStack where
  snapshots : List Snapshot := []
  run : Option Nat := none
  skipped : Nat := 0
  deriving DecidableEq, Repr

namespace UndoStack

/-- How many snapshots are kept. -/
def maxDepth : Nat := 200

/-- The number of snapshots. -/
def depth (u : UndoStack) : Nat := u.snapshots.length

/-- Takes a snapshot, unless it equals the newest one. The oldest one beyond the limit is
forgotten. -/
def push (u : UndoStack) (b : Buffer) : UndoStack :=
  if u.snapshots.head? = some b.snapshot then { u with skipped := u.skipped + 1 }
  else { u with snapshots := (b.snapshot :: u.snapshots).take maxDepth }

/-- Starts a run of insertions with a snapshot, unless one is going on. -/
def beginRun (u : UndoStack) (b : Buffer) : UndoStack :=
  match u.run with
  | none => { u.push b with run := some 0 }
  | some _ => u

/-- Ends the run of insertions. -/
def endRun (u : UndoStack) : UndoStack :=
  { u with run := none }

/-- Counts one edit of the run that is going on. -/
def noteEdit (u : UndoStack) : UndoStack :=
  { u with run := u.run.map (· + 1) }

/-- Takes the snapshot for an edit that is undone on its own. -/
def pushEdit (u : UndoStack) (b : Buffer) : UndoStack :=
  u.endRun.push b

/-- Restores the newest snapshot and takes it off the stack. The last component tells whether
there was one. -/
def undo (u : UndoStack) (b : Buffer) : UndoStack × Buffer × Bool :=
  match u.snapshots with
  | [] => (u.endRun, b, false)
  -- text typed from here on starts a run of its own
  | s :: rest => ({ u.endRun with snapshots := rest }, b.restore s, true)

/-- Forgets all snapshots. -/
def clear (u : UndoStack) : UndoStack :=
  { u with snapshots := [], run := none }

theorem depth_push_le (u : UndoStack) (b : Buffer) (h : u.depth ≤ maxDepth) :
    (u.push b).depth ≤ maxDepth := by
  simp only [push]
  split
  · exact h
  · exact (List.length_take_le _ _)

theorem run_push (u : UndoStack) (b : Buffer) : (u.push b).run = u.run := by
  rw [push]
  split
  · rfl
  · rfl

theorem snapshots_undo (u : UndoStack) (b : Buffer) :
    (u.undo b).1.snapshots = u.snapshots.tail := by
  cases h : u.snapshots with
  | nil => rw [undo, h]; exact h
  | cons s rest => rw [undo, h]; rfl

/-- Undo ends the run of insertions, whether there was a snapshot or not. -/
theorem run_undo (u : UndoStack) (b : Buffer) : (u.undo b).1.run = none := by
  rw [undo]
  split
  · rfl
  · rfl

@[simp]
theorem depth_clear (u : UndoStack) : u.clear.depth = 0 := rfl

end UndoStack

end LineEditor

import LineEditor.Proofs.Access.Basic
import LineEditor.Proofs.Turn

/-!
# The console with checked accesses

An edit cuts the line at the cursor, keeps a snapshot of it and keeps what it removed, and a drawing
shows the part of the line before the cursor. All of this is in range as long as the cursor stands
in the line, in that of the buffer and in those of the snapshots, to which undo goes back; and as
long as no more is kept than there is room for, it is the oldest snapshot, or the oldest removed
text, that has to go. The edits of this module make their accesses with checks. They come to what
the edits of the console do, and leave everything in range.

## Main definitions

* `UndoStack.InRange`, `KillRing.InRange` and `Console.InRange` — cursors and sizes are in range.
* `Buffer.insert?`, `UndoStack.push?`, `Console.remove?`, `Console.draw?` and the others are the
  operations of the same names with checked accesses.

## Main results

* `Console.gives_insert`, `Console.gives_remove`, `Console.gives_draw` and the others.
-/

namespace LineEditor

open Access

/-! ### The buffer -/

namespace Buffer

/-- Inserts at the cursor. -/
def insert? (b : Buffer) (t : Text) : Option Buffer := do
  let line ← splice? b.line b.cursor t
  pure { b with line, cursor := b.cursor + t.length }

/-- Removes up to `n` characters at the cursor. -/
def deleteForward? (b : Buffer) (n : Nat) : Option (Buffer × Text) := do
  let drained ← drain? b.line b.cursor (min (b.cursor + n) b.line.length)
  pure ({ b with line := drained.1 }, drained.2)

/-- Removes up to `n` characters before the cursor. -/
def deletePrevious? (b : Buffer) (n : Nat) : Option (Buffer × Text) := do
  let drained ← drain? b.line (b.cursor - n) b.cursor
  pure ({ b with line := drained.1, cursor := b.cursor - n }, drained.2)

/-- Removes the characters from `start` up to `stop`, as far as there are any. -/
def deleteRange? (b : Buffer) (start stop : Nat) : Option (Buffer × Text) := do
  let stop := min stop b.line.length
  let start := min start stop
  let drained ← drain? b.line start stop
  pure ({ b with line := drained.1, cursor := start }, drained.2)

/-- The columns between the prompt and the place where the cursor is shown. -/
def displayCursor? (b : Buffer) : Option Nat :=
  match b.prompt.mask with
  | some .hidden => pure 0
  | some (.glyph _) => pure b.cursor
  | none => do
    let before ← slice? b.line 0 b.cursor
    pure (Screen.visibleWidth before)

/-- What is written to draw the prompt and the line. -/
def drawing? (b : Buffer) : Option Text := do
  let column ← b.displayCursor?
  pure (clearRow ++ b.prompt.text ++ b.visibleLine ++
    moveBack (Screen.visibleWidth b.visibleLine - column))

variable {b : Buffer}

theorem gives_insert (h : b.CursorInLine) (t : Text) :
    Gives (b.insert? t) (b.insert t) CursorInLine := by
  refine ⟨?_, h.insert t⟩
  rw [insert?, splice?_eq h]
  rfl

theorem gives_deleteForward (h : b.CursorInLine) (n : Nat) :
    Gives (b.deleteForward? n) (b.deleteForward n) (·.1.CursorInLine) := by
  have hrange : b.cursor ≤ min (b.cursor + n) b.line.length :=
    Nat.le_min.mpr ⟨Nat.le_add_right _ _, h⟩
  refine ⟨?_, h.deleteForward n⟩
  rw [deleteForward?, drain?_eq ⟨hrange, Nat.min_le_right _ _⟩, ← List.take_eq_take_min,
    ← List.drop_eq_drop_min, List.drop_take, Nat.add_sub_cancel_left]
  rfl

theorem gives_deletePrevious (h : b.CursorInLine) (n : Nat) :
    Gives (b.deletePrevious? n) (b.deletePrevious n) (·.1.CursorInLine) := by
  refine ⟨?_, h.deletePrevious n⟩
  rw [deletePrevious?, drain?_eq ⟨Nat.sub_le _ _, h⟩]
  rfl

/-- What is to be removed is cut short first, so that any range will do. -/
theorem gives_deleteRange (b : Buffer) (start stop : Nat) :
    Gives (b.deleteRange? start stop) (b.deleteRange start stop) (·.1.CursorInLine) := by
  refine ⟨?_, b.cursorInLine_deleteRange start stop⟩
  rw [deleteRange?, drain?_eq ⟨Nat.min_le_right _ _, Nat.min_le_right _ _⟩]
  rfl

theorem displayCursor?_eq (h : b.CursorInLine) : b.displayCursor? = some b.displayCursor := by
  rw [displayCursor?, displayCursor, slice?_zero h]
  cases b.prompt.mask with
  | none => rfl
  | some mask =>
    cases mask with
    | hidden => rfl
    | glyph g => rfl

/-- With its cursor behind the line, a buffer cannot be shown. -/
example : ({ line := ['a'], cursor := 2 } : Buffer).displayCursor? = none := rfl

theorem drawing?_eq (h : b.CursorInLine) : b.drawing? = some b.drawing := by
  rw [drawing?, displayCursor?_eq h]
  rfl

end Buffer

/-! ### What edits leave behind -/

namespace UndoStack

/-- The cursors of all snapshots stand in their lines, and there is room for the snapshots. -/
structure InRange (u : UndoStack) : Prop where
  cursors : ∀ s ∈ u.snapshots, s.cursor ≤ s.line.length
  depth : u.depth ≤ maxDepth

/-- Takes a snapshot. Snapshots are counted from the oldest one, which is the last one here. -/
def push? (u : UndoStack) (b : Buffer) : Option UndoStack :=
  if u.snapshots.head? = some b.snapshot then pure { u with skipped := u.skipped + 1 }
  else
    let snapshots := b.snapshot :: u.snapshots
    if maxDepth < snapshots.length then do
      let kept ← remove? snapshots.reverse 0
      pure { u with snapshots := kept.reverse }
    else pure { u with snapshots }

/-- Starts a run of insertions, unless one is going on. -/
def beginRun? (u : UndoStack) (b : Buffer) : Option UndoStack :=
  match u.run with
  | none => do
    let u ← u.push? b
    pure { u with run := some 0 }
  | some _ => pure u

/-- Takes the snapshot for an edit that is undone on its own. -/
def pushEdit? (u : UndoStack) (b : Buffer) : Option UndoStack :=
  u.endRun.push? b

variable {u : UndoStack} {b : Buffer}

theorem InRange.push (h : u.InRange) (hb : b.CursorInLine) : (u.push b).InRange := by
  refine ⟨?_, u.depth_push_le b h.depth⟩
  rw [UndoStack.push]
  split
  · exact h.cursors
  · intro s hs
    rcases List.mem_cons.mp (List.mem_of_mem_take hs) with rfl | hold
    · exact hb
    · exact h.cursors s hold

/-- Without its oldest member, a list that is one too long is cut to the right length. -/
theorem remove?_reverse {α : Type} {l : List α} {n : Nat} (h : l.length = n + 1) :
    Access.remove? l.reverse 0 = some (l.take n).reverse := by
  have hne : l.reverse ≠ [] := by
    rw [ne_eq, List.reverse_eq_nil_iff, ← List.length_eq_zero_iff]
    omega
  rw [remove?_zero hne, List.tail_reverse, List.dropLast_eq_take, h, Nat.add_sub_cancel]

theorem gives_push (h : u.InRange) (hb : b.CursorInLine) :
    Gives (u.push? b) (u.push b) InRange := by
  refine ⟨?_, h.push hb⟩
  -- there is one snapshot too many at most, so that it is enough to remove one
  have hdepth : (b.snapshot :: u.snapshots).length ≤ maxDepth + 1 := Nat.succ_le_succ h.depth
  rw [push?, push]
  split
  · rfl
  · dsimp only
    split
    · next hfull =>
      have hlength : (b.snapshot :: u.snapshots).length = maxDepth + 1 := by omega
      rw [remove?_reverse hlength]
      show some { u with
        snapshots := ((b.snapshot :: u.snapshots).take maxDepth).reverse.reverse } = _
      rw [List.reverse_reverse]
    · next hroom =>
      rw [List.take_of_length_le (Nat.not_lt.mp hroom)]
      rfl

theorem gives_beginRun (h : u.InRange) (hb : b.CursorInLine) :
    Gives (u.beginRun? b) (u.beginRun b) InRange := by
  rw [beginRun?, beginRun]
  cases u.run with
  | none =>
    apply (gives_push h hb).bind
    intro hpushed
    exact .pure ⟨hpushed.cursors, hpushed.depth⟩
  | some n => exact .pure h

theorem gives_pushEdit (h : u.InRange) (hb : b.CursorInLine) :
    Gives (u.pushEdit? b) (u.pushEdit b) InRange :=
  gives_push ⟨h.cursors, h.depth⟩ hb

end UndoStack

namespace KillRing

/-- There is room for the texts that are kept. -/
def InRange (r : KillRing) : Prop := r.entries.length ≤ capacity

/-- Adds a text that is not empty. The oldest one makes room for it. -/
def add? (r : KillRing) (t : Text) : Option KillRing :=
  if t.isEmpty then pure r
  else if r.entries.length = capacity then do
    let kept ← remove? r.entries 0
    pure ⟨kept ++ [t]⟩
  else pure ⟨r.entries ++ [t]⟩

theorem gives_add {r : KillRing} (h : r.InRange) (t : Text) :
    Gives (r.add? t) (r.add t) InRange := by
  rw [add?, add]
  split
  · exact .pure h
  · refine ⟨?_, length_keepNewest_le _⟩
    rw [keepNewest, List.length_append, List.length_singleton]
    split
    · next hfull =>
      have hne : r.entries ≠ [] := by
        rw [ne_eq, ← List.length_eq_zero_iff, hfull]
        exact Nat.succ_ne_zero _
      have hdrop : (r.entries ++ [t]).drop 1 = r.entries.tail ++ [t] := by
        rw [List.drop_one, List.tail_append_of_ne_nil hne]
      rw [remove?_zero hne, hfull, Nat.add_sub_cancel_left, hdrop]
      rfl
    · next hroom =>
      have hle : r.entries.length ≤ capacity := h
      have hnone : r.entries.length + 1 - capacity = 0 := by omega
      rw [hnone, List.drop_zero]
      rfl

end KillRing

/-! ### The console -/

namespace Console

/-- The cursors are in range, and there is room for what is kept. -/
structure InRange (c : Console) : Prop where
  cursor : c.buffer.CursorInLine
  undo : c.undoStack.InRange
  kills : c.kills.InRange

/-- Takes the snapshot for an edit. -/
def snapshot? (c : Console) : Option Console := do
  let undoStack ← c.undoStack.pushEdit? c.buffer
  pure { c with undoStack }

/-- Inserts typed text. -/
def insert? (c : Console) (t : Text) : Option Console :=
  if t.isEmpty then pure c
  else do
    let undoStack ← c.undoStack.beginRun? c.buffer
    let buffer ← c.buffer.insert? t
    pure { c with undoStack := undoStack.noteEdit, buffer }

/-- Inserts text as one edit of its own. -/
def insertDiscrete? (c : Console) (t : Text) : Option Console :=
  if t.isEmpty then pure c
  else do
    let c ← c.snapshot?
    let buffer ← c.buffer.insert? t
    pure { c with buffer }

/-- An edit that removes text. -/
def remove? (c : Console) (edit : Buffer → Option (Buffer × Text)) : Option (Console × Nat) := do
  let c ← c.snapshot?
  let removed ← edit c.buffer
  let kills ← c.kills.add? removed.2
  pure ({ c with buffer := removed.1, kills }, removed.2.length)

def deleteForward? (c : Console) (n : Nat) : Option (Console × Nat) :=
  if c.buffer.line.length ≤ c.buffer.cursor then pure (c, 0) else c.remove? (·.deleteForward? n)

def deletePrevious? (c : Console) (n : Nat) : Option (Console × Nat) :=
  if c.buffer.cursor = 0 then pure (c, 0) else c.remove? (·.deletePrevious? n)

def deleteRange? (c : Console) (start stop : Nat) : Option (Console × Nat) :=
  if stop ≤ start ∨ c.buffer.line.length ≤ start then pure (c, 0)
  else c.remove? (·.deleteRange? start stop)

def killToEnd? (c : Console) : Option (Console × Nat) :=
  c.deleteRange? c.buffer.cursor c.buffer.line.length

def killToStart? (c : Console) : Option (Console × Nat) :=
  c.deleteRange? 0 c.buffer.cursor

def deleteLine? (c : Console) : Option (Console × Nat) :=
  c.deleteRange? 0 c.buffer.line.length

/-- Overwrites a character. -/
def replaceChar? (c : Console) (ch : Char) (pos : Nat) : Option (Console × Bool) :=
  if c.buffer.line.length ≤ pos then pure (c, false)
  else do
    let c ← c.snapshot?
    pure (c.onBuffer fun b => (b.replaceChar ch pos).1, true)

/-- Puts a text in place of the line. -/
def replaceLine? (c : Console) (t : Text) : Option Console :=
  if c.buffer.line = t then pure c
  else do
    let c ← c.snapshot?
    pure (c.onBuffer (·.replace t))

/-- Inserts the newest text of the kill ring. -/
def yank? (c : Console) : Option (Console × Bool) :=
  match c.kills.newest? with
  | none => pure (c, false)
  | some t => do
    let c ← c.insertDiscrete? t
    pure (c, true)

/-- Draws the prompt and the line anew. -/
def draw? (c : Console) : Option Console := do
  let t ← c.buffer.drawing?
  pure (c.write t)

/-- Removes the whole line and draws it. -/
def deleteUnseen? (c : Console) : Option (Console × Nat) := do
  let removed ← c.deleteLine?
  let c ← removed.1.draw?
  pure (c, removed.2)

theorem inRange_ofPrompt (prompt : Prompt) : (ofPrompt prompt).InRange where
  cursor := Nat.le_refl _
  undo := ⟨fun _ hs => absurd hs List.not_mem_nil, Nat.zero_le _⟩
  kills := Nat.zero_le _

variable {c : Console}

/-- A change of the buffer that leaves the cursor in the line. -/
theorem InRange.onBuffer {f : Buffer → Buffer} (h : c.InRange)
    (hf : (f c.buffer).CursorInLine) : (c.onBuffer f).InRange :=
  ⟨hf, h.undo, h.kills⟩

theorem InRange.write (h : c.InRange) (t : Text) : (c.write t).InRange :=
  ⟨h.cursor, h.undo, h.kills⟩

theorem InRange.endRun (h : c.InRange) : c.endRun.InRange :=
  ⟨h.cursor, ⟨h.undo.cursors, h.undo.depth⟩, h.kills⟩

theorem InRange.clearUndo (h : c.InRange) : c.clearUndo.InRange :=
  ⟨h.cursor, ⟨fun _ hs => absurd hs List.not_mem_nil, Nat.zero_le _⟩, h.kills⟩

theorem InRange.reset (h : c.InRange) : c.reset.InRange :=
  ⟨Nat.le_refl _, h.clearUndo.undo, h.kills⟩

/-- Undo goes back to a snapshot, whose cursor is in its line. -/
theorem InRange.undo_fst (h : c.InRange) : c.undo.1.InRange := by
  cases hsnapshots : c.undoStack.snapshots with
  | nil =>
    rw [undo_of_snapshots_eq_nil hsnapshots]
    exact h.endRun
  | cons s rest =>
    have hcursors := h.undo.cursors
    have hdepth := h.undo.depth
    rw [UndoStack.depth, hsnapshots] at hdepth
    rw [hsnapshots] at hcursors
    rw [undo_of_snapshots_eq_cons hsnapshots]
    refine ⟨Buffer.cursorInLine_setCursor _ _, ⟨?_, Nat.le_of_succ_le hdepth⟩, h.kills⟩
    intro old hold
    exact hcursors old (List.mem_cons_of_mem s hold)

theorem gives_snapshot (h : c.InRange) : Gives c.snapshot? c.snapshot InRange := by
  apply (UndoStack.gives_pushEdit h.undo h.cursor).bind
  intro hundo
  exact .pure ⟨h.cursor, hundo, h.kills⟩

theorem gives_insert (h : c.InRange) (t : Text) : Gives (c.insert? t) (c.insert t) InRange := by
  rw [insert?, insert]
  split
  · exact .pure h
  · apply (UndoStack.gives_beginRun h.undo h.cursor).bind
    intro hundo
    apply (Buffer.gives_insert h.cursor t).bind
    intro hcursor
    exact .pure ⟨hcursor, ⟨hundo.cursors, hundo.depth⟩, h.kills⟩

theorem gives_insertDiscrete (h : c.InRange) (t : Text) :
    Gives (c.insertDiscrete? t) (c.insertDiscrete t) InRange := by
  rw [insertDiscrete?, insertDiscrete]
  split
  · exact .pure h
  · apply (gives_snapshot h).bind
    intro hsnapshot
    apply (Buffer.gives_insert hsnapshot.cursor t).bind
    intro hcursor
    exact .pure (hsnapshot.onBuffer (f := (·.insert t)) hcursor)

/-- A removal is in range if the buffer can make it. -/
theorem gives_remove {edit? : Buffer → Option (Buffer × Text)} {edit : Buffer → Buffer × Text}
    (h : c.InRange)
    (hedit : Gives (edit? c.buffer) (edit c.buffer) (·.1.CursorInLine)) :
    Gives (c.remove? edit?) (c.remove edit) (·.1.InRange) := by
  apply (gives_snapshot h).bind
  intro hsnapshot
  -- the snapshot leaves the buffer as it is
  have hbuffer : Gives (edit? c.snapshot.buffer) (edit c.buffer) (·.1.CursorInLine) := hedit
  apply hbuffer.bind
  intro hcursor
  apply (KillRing.gives_add hsnapshot.kills (edit c.buffer).2).bind
  intro hkills
  exact .pure ⟨hcursor, hsnapshot.undo, hkills⟩

theorem gives_deleteForward (h : c.InRange) (n : Nat) :
    Gives (c.deleteForward? n) (c.deleteForward n) (·.1.InRange) := by
  rw [deleteForward?, deleteForward]
  split
  · exact .pure h
  · exact gives_remove h (Buffer.gives_deleteForward h.cursor n)

theorem gives_deletePrevious (h : c.InRange) (n : Nat) :
    Gives (c.deletePrevious? n) (c.deletePrevious n) (·.1.InRange) := by
  rw [deletePrevious?, deletePrevious]
  split
  · exact .pure h
  · exact gives_remove h (Buffer.gives_deletePrevious h.cursor n)

theorem gives_deleteRange (h : c.InRange) (start stop : Nat) :
    Gives (c.deleteRange? start stop) (c.deleteRange start stop) (·.1.InRange) := by
  rw [deleteRange?, deleteRange]
  split
  · exact .pure h
  · exact gives_remove h (c.buffer.gives_deleteRange start stop)

theorem gives_replaceChar (h : c.InRange) (ch : Char) (pos : Nat) :
    Gives (c.replaceChar? ch pos) (c.replaceChar ch pos) (·.1.InRange) := by
  rw [replaceChar?, replaceChar]
  split
  · exact .pure h
  · apply (gives_snapshot h).bind
    intro hsnapshot
    have hlength : (c.buffer.line.set pos ch).length = c.buffer.line.length := List.length_set
    apply Gives.pure
    exact hsnapshot.onBuffer (f := fun b => (b.replaceChar ch pos).1)
      (Nat.le_trans h.cursor (Nat.le_of_eq hlength.symm))

theorem gives_replaceLine (h : c.InRange) (t : Text) :
    Gives (c.replaceLine? t) (c.replaceLine t) InRange := by
  rw [replaceLine?, replaceLine]
  split
  · exact .pure h
  · apply (gives_snapshot h).bind
    intro hsnapshot
    exact .pure (hsnapshot.onBuffer (Nat.le_refl _))

theorem gives_yank (h : c.InRange) : Gives c.yank? c.yank (·.1.InRange) := by
  rw [yank?, yank]
  cases c.kills.newest? with
  | none =>
    apply Gives.pure
    exact h
  | some t =>
    apply (gives_insertDiscrete h t).bind
    intro hinserted
    apply Gives.pure
    exact hinserted

theorem gives_draw (h : c.InRange) : Gives c.draw? c.draw InRange := by
  apply (gives_of_eq (Buffer.drawing?_eq h.cursor)).bind
  intro _
  exact .pure (h.write _)

theorem gives_deleteUnseen (h : c.InRange) :
    Gives c.deleteUnseen? c.deleteUnseen (·.1.InRange) := by
  apply (gives_deleteRange h 0 c.buffer.line.length).bind
  intro hremoved
  apply (gives_draw hremoved).bind
  intro hdrawn
  exact .pure hdrawn

end Console

end LineEditor

import LineEditor.Proofs.Access.Console

/-!
# What may be done with a console

A console is changed by its operations only, in any order. What can be said of all consoles is said
of those that a run of operations leads to, and often it is told from the operations that there
were, each with the console that it met. Some of them take text out of the line; they differ in the
places between which they do so, and these are told from the buffer.

## Main definitions

* `BufferOp`, `ConsoleOp` are the operations, `Console.perform` carries out one and `Console.run`
  several; `Console.moments` are the operations of a run, each with the console that it met.
* `ConsoleOp.range?` are the places between which an operation takes out text, and
  `ConsoleOp.removed` is that text.

## Main results

* `Console.InRange.run` — whatever is done with a console, it stays in range.
-/

namespace LineEditor

/-- What may be done with a buffer. -/
inductive BufferOp
  | setPrompt (prompt : Prompt)
  | setMask (mask : Option Mask)
  | setMultiLine (on : Bool)
  | insert (t : Text)
  | deleteForward (n : Nat)
  | deletePrevious (n : Nat)
  | deleteRange (start stop : Nat)
  | replaceChar (ch : Char) (pos : Nat)
  | replace (t : Text)
  | moveCursor (delta : Int)
  | setCursor (pos : Nat)
  | reset
  | fold
  deriving DecidableEq, Repr

/-- What may be done with a console. -/
inductive ConsoleOp
  | onBuffer (op : BufferOp)
  | insert (t : Text)
  | insertDiscrete (t : Text)
  | endRun
  | deleteForward (n : Nat)
  | deletePrevious (n : Nat)
  | deleteRange (start stop : Nat)
  | killToEnd
  | killToStart
  | deleteLine
  | deleteUnseen
  | replaceChar (ch : Char) (pos : Nat)
  | replaceLine (t : Text)
  | yank
  | undo
  | clearUndo
  | reset
  | draw
  | write (t : Text)
  | takeOutput
  deriving DecidableEq, Repr

/-- What an operation answers: how many characters it removed, whether it did anything, or the
output that it took. -/
inductive ConsoleAnswer
  | nothing
  | removed (n : Nat)
  | done (yes : Bool)
  | output (t : Text)
  deriving DecidableEq, Repr

namespace Buffer

/-- Carries out an operation. -/
def perform (b : Buffer) : BufferOp → Buffer
  | .setPrompt prompt => b.setPrompt prompt
  | .setMask mask => b.setMask mask
  | .setMultiLine on => b.setMultiLine on
  | .insert t => b.insert t
  | .deleteForward n => (b.deleteForward n).1
  | .deletePrevious n => (b.deletePrevious n).1
  | .deleteRange start stop => (b.deleteRange start stop).1
  | .replaceChar ch pos => (b.replaceChar ch pos).1
  | .replace t => b.replace t
  | .moveCursor delta => b.moveCursor delta
  | .setCursor pos => b.setCursor pos
  | .reset => b.reset
  | .fold => b.fold

/-- Whatever is done with a buffer, the cursor stays in the line. -/
theorem CursorInLine.perform {b : Buffer} (h : b.CursorInLine) (op : BufferOp) :
    (b.perform op).CursorInLine := by
  cases op with
  | setPrompt prompt => exact h
  | setMask mask => exact h
  | setMultiLine on => exact h
  | insert t => exact h.insert t
  | deleteForward n => exact h.deleteForward n
  | deletePrevious n => exact h.deletePrevious n
  | deleteRange start stop => exact b.cursorInLine_deleteRange start stop
  | replaceChar ch pos => exact Nat.le_trans h (Nat.le_of_eq List.length_set.symm)
  | replace t => exact b.cursorInLine_replace t
  | moveCursor delta => exact b.cursor_moveCursor_le delta
  | setCursor pos => exact b.cursorInLine_setCursor pos
  | reset => exact Nat.le_refl _
  | fold => exact Nat.le_refl _

end Buffer

namespace Console

/-- Carries out an operation. -/
def perform (c : Console) : ConsoleOp → Console × ConsoleAnswer
  | .onBuffer op => (c.onBuffer (·.perform op), .nothing)
  | .insert t => (c.insert t, .nothing)
  | .insertDiscrete t => (c.insertDiscrete t, .nothing)
  | .endRun => (c.endRun, .nothing)
  | .deleteForward n => (c.deleteForward n).map id .removed
  | .deletePrevious n => (c.deletePrevious n).map id .removed
  | .deleteRange start stop => (c.deleteRange start stop).map id .removed
  | .killToEnd => c.killToEnd.map id .removed
  | .killToStart => c.killToStart.map id .removed
  | .deleteLine => c.deleteLine.map id .removed
  | .deleteUnseen => c.deleteUnseen.map id .removed
  | .replaceChar ch pos => (c.replaceChar ch pos).map id .done
  | .replaceLine t => (c.replaceLine t, .nothing)
  | .yank => c.yank.map id .done
  | .undo => c.undo.map id .done
  | .clearUndo => (c.clearUndo, .nothing)
  | .reset => (c.reset, .nothing)
  | .draw => (c.draw, .nothing)
  | .write t => (c.write t, .nothing)
  | .takeOutput => c.takeOutput.map id .output

/-- Carries out several operations. -/
def run (c : Console) (ops : List ConsoleOp) : Console :=
  ops.foldl (fun c op => (c.perform op).1) c

/-- An operation, and the console that it met. -/
structure Moment where
  console : Console
  op : ConsoleOp
  deriving DecidableEq, Repr

/-- The operations of a run, each with the console that it met, from the first one on. -/
def moments (c : Console) : List ConsoleOp → List Moment
  | [] => []
  | op :: rest => ⟨c, op⟩ :: moments (c.perform op).1 rest

variable {c : Console}

@[simp]
theorem run_concat (c : Console) (ops : List ConsoleOp) (op : ConsoleOp) :
    c.run (ops ++ [op]) = ((c.run ops).perform op).1 := by
  rw [run, List.foldl_append]
  rfl

@[simp]
theorem moments_concat (c : Console) (ops : List ConsoleOp) (op : ConsoleOp) :
    c.moments (ops ++ [op]) = c.moments ops ++ [⟨c.run ops, op⟩] := by
  induction ops generalizing c with
  | nil => rfl
  | cons first rest ih => exact congrArg (⟨c, first⟩ :: ·) (ih _)

theorem InRange.perform (h : c.InRange) (op : ConsoleOp) : (c.perform op).1.InRange := by
  cases op with
  | onBuffer op => exact h.onBuffer (f := (·.perform op)) (h.cursor.perform op)
  | insert t => exact (gives_insert h t).ok
  | insertDiscrete t => exact (gives_insertDiscrete h t).ok
  | endRun => exact h.endRun
  | deleteForward n => exact (gives_deleteForward h n).ok
  | deletePrevious n => exact (gives_deletePrevious h n).ok
  | deleteRange start stop => exact (gives_deleteRange h start stop).ok
  | killToEnd => exact (gives_deleteRange h _ _).ok
  | killToStart => exact (gives_deleteRange h _ _).ok
  | deleteLine => exact (gives_deleteRange h _ _).ok
  | deleteUnseen => exact (gives_deleteUnseen h).ok
  | replaceChar ch pos => exact (gives_replaceChar h ch pos).ok
  | replaceLine t => exact (gives_replaceLine h t).ok
  | yank => exact (gives_yank h).ok
  | undo => exact h.undo_fst
  | clearUndo => exact h.clearUndo
  | reset => exact h.reset
  | draw => exact (gives_draw h).ok
  | write t => exact h.write t
  | takeOutput => exact ⟨h.cursor, h.undo, h.kills⟩

/-- Whatever is done with a console, it stays in range. -/
theorem InRange.run (h : c.InRange) (ops : List ConsoleOp) : (c.run ops).InRange := by
  induction ops generalizing c with
  | nil => exact h
  | cons op rest ih => exact ih (h.perform op)

end Console

/-! ### Text that is taken out -/

section Extract

variable {α : Type} {l : List α} {start stop : Nat}

/-- Two places cut a list into three. -/
theorem take_append_extract_append_drop (h : start ≤ stop) (l : List α) :
    l.take start ++ l.extract start stop ++ l.drop stop = l := by
  have hrest : l.drop stop = (l.drop start).drop (stop - start) := by
    rw [List.drop_drop, Nat.add_sub_cancel' h]
  rw [List.extract, hrest, List.append_assoc, List.take_append_drop, List.take_append_drop]

theorem extract_eq_nil_iff : l.extract start stop = [] ↔ stop ≤ start ∨ l.length ≤ start := by
  rw [List.extract, List.take_eq_nil_iff, List.drop_eq_nil_iff, Nat.sub_eq_zero_iff_le]

/-- A place behind the list is as good as its end. -/
theorem extract_min (l : List α) (start stop : Nat) :
    l.extract start (min stop l.length) = l.extract start stop := by
  rw [List.extract, List.extract]
  apply List.take_eq_take_iff.mpr
  rw [List.length_drop]
  omega

end Extract

namespace ConsoleOp

/-- The places between which an operation takes out text. -/
def range? (b : Buffer) : ConsoleOp → Option (Nat × Nat)
  | .deleteForward n => some (b.cursor, b.cursor + n)
  | .deletePrevious n => some (b.cursor - n, b.cursor)
  | .deleteRange start stop => some (start, stop)
  | .killToEnd => some (b.cursor, b.line.length)
  | .killToStart => some (0, b.cursor)
  | .deleteLine => some (0, b.line.length)
  | .deleteUnseen => some (0, b.line.length)
  | _ => none

/-- The text that an operation takes out of the line. -/
def removed (b : Buffer) (op : ConsoleOp) : Text :=
  match op.range? b with
  | none => []
  | some (start, stop) => b.line.extract start stop

theorem removed_eq {b : Buffer} {op : ConsoleOp} {start stop : Nat}
    (h : op.range? b = some (start, stop)) : op.removed b = b.line.extract start stop := by
  rw [removed, h]

end ConsoleOp

end LineEditor

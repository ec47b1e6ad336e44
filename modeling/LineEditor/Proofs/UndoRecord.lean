import LineEditor.Proofs.Operations
import Mathlib.Data.List.Induction

/-!
# What undo goes back to

The undo stack takes its snapshots when it has to: at the start of a run of insertions, in front of
every other edit, and not when the newest snapshot is the same. Here it is told from the operations
alone what should be there to go back to. Looking back over a run, one can see where an edit begins,
and the line and the cursor that stood there are what undo restores. The stack holds just these.

## Main definitions

* `UndoRole`, `ConsoleOp.role` — what an operation is to undo.
* `Console.typingOn` — a run of insertions goes on.
* `Console.recorded` are the lines, with their cursors, that undo can go back to.

## Main results

* `Console.undoStack_perform` — an operation does to the undo stack what its role says.
* `Console.RecordedBy.after`, `Console.recordedBy_run` — the stack holds what is recorded.
* `Console.undo_eq_recorded` — what undo does after any operations.
-/

namespace LineEditor

/-- What an operation is to undo. -/
inductive UndoRole
  /-- Undo need not know of it. -/
  | silent
  /-- It types text as part of a run of insertions. -/
  | typing
  /-- It is an edit of its own. -/
  | edit
  /-- It ends a run of insertions. -/
  | pause
  | undoing
  | forgetting
  deriving DecidableEq, Repr

namespace ConsoleOp

/-- The operation does not ask for no characters to be removed. -/
def AsksForSome (op : ConsoleOp) : Prop :=
  op ≠ .deleteForward 0 ∧ op ≠ .deletePrevious 0

instance (op : ConsoleOp) : Decidable op.AsksForSome :=
  inferInstanceAs (Decidable (_ ∧ _))

/-- The role of an edit, which is nothing to undo if it does not find anything to do. -/
def editIf (found : Bool) : UndoRole :=
  if found then .edit else .silent

/-- What an operation is to undo. An edit has nothing to do if there is no text to insert, or none
to take out, no character at the place, no text in the kill ring, or if the line is the same. -/
def role (c : Console) : ConsoleOp → UndoRole
  | .insert t => if t.isEmpty then .silent else .typing
  | .insertDiscrete t => editIf (!t.isEmpty)
  | .replaceChar _ pos => editIf (pos < c.buffer.line.length)
  | .replaceLine t => editIf (c.buffer.line ≠ t)
  | .yank => editIf (c.kills.newest?.any (!·.isEmpty))
  | .endRun => .pause
  | .undo => .undoing
  | .clearUndo => .forgetting
  | .reset => .forgetting
  | op => editIf (!(op.removed c.buffer).isEmpty)

end ConsoleOp

namespace UndoStack

/-- What becomes of the stack, given the buffer in front of an operation. -/
def after (u : UndoStack) (b : Buffer) : UndoRole → UndoStack
  | .silent => u
  | .typing => (u.beginRun b).noteEdit
  | .edit => u.pushEdit b
  | .pause => u.endRun
  | .undoing => (u.undo b).1
  | .forgetting => u.clear

end UndoStack

namespace Console

open ConsoleOp

section Perform

variable {c : Console}

theorem after_editIf (c : Console) (found : Bool) :
    c.undoStack.after c.buffer (editIf found) =
      if found then c.undoStack.pushEdit c.buffer else c.undoStack := by
  cases found with
  | true => rfl
  | false => rfl

/-- A removal that is held back exactly where there is nothing to take out. -/
theorem undoStack_remove (op : ConsoleOp) {start stop : Nat}
    (hrange : op.range? c.buffer = some (start, stop)) {nothing : Prop} [Decidable nothing]
    (hnothing : nothing ↔ stop ≤ start ∨ c.buffer.line.length ≤ start)
    (edit : Buffer → Buffer × Text) :
    (if nothing then (c, 0) else c.remove edit).1.undoStack =
      c.undoStack.after c.buffer (editIf (!(op.removed c.buffer).isEmpty)) := by
  rw [removed_eq hrange]
  rw [← extract_eq_nil_iff] at hnothing
  by_cases h : nothing
  · rw [if_pos h, hnothing.mp h]
    rfl
  · have hsome : (c.buffer.line.extract start stop).isEmpty = false := by
      simpa using fun hnone => h (hnothing.mpr hnone)
    rw [if_neg h, hsome]
    rfl

theorem undoStack_deleteRange (op : ConsoleOp) {start stop : Nat}
    (hrange : op.range? c.buffer = some (start, stop)) :
    (c.deleteRange start stop).1.undoStack =
      c.undoStack.after c.buffer (editIf (!(op.removed c.buffer).isEmpty)) :=
  undoStack_remove op hrange Iff.rfl _

theorem undoStack_insertDiscrete (c : Console) (t : Text) :
    (c.insertDiscrete t).undoStack = c.undoStack.after c.buffer (editIf (!t.isEmpty)) := by
  rw [insertDiscrete, after_editIf]
  cases t.isEmpty with
  | true => rfl
  | false => rfl

theorem undoStack_insert (c : Console) (t : Text) :
    (c.insert t).undoStack =
      c.undoStack.after c.buffer (if t.isEmpty then .silent else .typing) := by
  rw [insert]
  cases t.isEmpty with
  | true => rfl
  | false => rfl

theorem undoStack_replaceChar (c : Console) (ch : Char) (pos : Nat) :
    (c.replaceChar ch pos).1.undoStack =
      c.undoStack.after c.buffer (editIf (pos < c.buffer.line.length)) := by
  rw [replaceChar, after_editIf]
  by_cases h : c.buffer.line.length ≤ pos
  · rw [if_pos h, if_neg (by simpa using h)]
  · rw [if_neg h, if_pos (by simpa using h)]
    rfl

theorem undoStack_replaceLine (c : Console) (t : Text) :
    (c.replaceLine t).undoStack = c.undoStack.after c.buffer (editIf (c.buffer.line ≠ t)) := by
  rw [replaceLine, after_editIf]
  by_cases h : c.buffer.line = t
  · rw [if_pos h, if_neg (by simpa using h)]
  · rw [if_neg h, if_pos (by simpa using h)]
    rfl

theorem undoStack_yank (c : Console) :
    c.yank.1.undoStack =
      c.undoStack.after c.buffer (editIf (c.kills.newest?.any (!·.isEmpty))) := by
  rw [yank]
  cases c.kills.newest? with
  | none => rfl
  | some t => exact undoStack_insertDiscrete c t

/-- An operation does to the undo stack what its role says. -/
theorem undoStack_perform (h : c.buffer.CursorInLine) {op : ConsoleOp} (hop : op.AsksForSome) :
    (c.perform op).1.undoStack = c.undoStack.after c.buffer (op.role c) := by
  have hline : c.buffer.cursor ≤ c.buffer.line.length := h
  cases op with
  | insert t => exact undoStack_insert c t
  | insertDiscrete t => exact undoStack_insertDiscrete c t
  -- with a count, only an end of the line leaves nothing to take out
  | deleteForward n =>
    have hn : n ≠ 0 := fun hzero => hop.1 (congrArg _ hzero)
    exact undoStack_remove (.deleteForward n) rfl (by omega) _
  | deletePrevious n =>
    have hn : n ≠ 0 := fun hzero => hop.2 (congrArg _ hzero)
    exact undoStack_remove (.deletePrevious n) rfl (by omega) _
  | deleteRange start stop => exact undoStack_deleteRange (.deleteRange start stop) rfl
  | killToEnd => exact undoStack_deleteRange .killToEnd rfl
  | killToStart => exact undoStack_deleteRange .killToStart rfl
  | deleteLine => exact undoStack_deleteRange .deleteLine rfl
  | deleteUnseen => exact undoStack_deleteRange .deleteUnseen rfl
  | replaceChar ch pos => exact undoStack_replaceChar c ch pos
  | replaceLine t => exact undoStack_replaceLine c t
  | yank => exact undoStack_yank c
  | onBuffer | endRun | undo | clearUndo | reset | draw | write | takeOutput => rfl

end Perform

/-! ### The record -/

/-- A run of insertions goes on: of the operations that undo knows of, the last one typed text. They
are given with the last one first. -/
def typingOn : List Moment → Bool
  | [] => false
  | moment :: before =>
    match moment.op.role moment.console with
    | .silent => typingOn before
    | .typing => true
    | _ => false

/-- One more line in front of those that are kept, unless the newest one is the same. Only the
newest two hundred are kept. -/
def keep (s : Snapshot) (kept : List Snapshot) : List Snapshot :=
  if kept.head? = some s then kept else (s :: kept).take 200

/-- What undo can go back to, with the newest first, told from the operations that there were, with
the last one first. Each edit leaves the line that it met, where a run of insertions is one edit. -/
def recorded : List Moment → List Snapshot
  | [] => []
  | moment :: before =>
    match moment.op.role moment.console with
    | .silent => recorded before
    | .pause => recorded before
    | .typing =>
      if typingOn before then recorded before
      else keep moment.console.buffer.snapshot (recorded before)
    | .edit => keep moment.console.buffer.snapshot (recorded before)
    | .undoing => (recorded before).tail
    | .forgetting => []

/-- The stack holds what is recorded, and knows whether a run of insertions goes on. -/
structure RecordedBy (u : UndoStack) (past : List Moment) : Prop where
  snapshots : u.snapshots = recorded past
  run : u.run.isSome = typingOn past

section RecordedBy

variable {c : Console} {past : List Moment}

theorem snapshots_push (u : UndoStack) (b : Buffer) :
    (u.push b).snapshots = keep b.snapshot u.snapshots := by
  rw [UndoStack.push, keep]
  split
  · rfl
  · rfl

/-- What becomes of the stack is what becomes of the record. -/
theorem RecordedBy.after {u : UndoStack} (h : RecordedBy u past) (moment : Moment) :
    RecordedBy (u.after moment.console.buffer (moment.op.role moment.console))
      (moment :: past) := by
  obtain ⟨hsnapshots, hrun⟩ := h
  cases hrole : moment.op.role moment.console with
  | silent =>
    refine ⟨?_, ?_⟩
    · rw [recorded, hrole]
      exact hsnapshots
    · rw [typingOn, hrole]
      exact hrun
  | typing =>
    refine ⟨?_, ?_⟩
    · -- the stack knows of a run what the record finds by looking back
      rw [recorded, hrole, ← hsnapshots, ← hrun, UndoStack.after, UndoStack.beginRun]
      cases u.run with
      | none => exact snapshots_push u moment.console.buffer
      | some n => rfl
    · rw [typingOn, hrole, UndoStack.after, UndoStack.beginRun]
      cases hcase : u.run with
      | none => rfl
      | some n =>
        rw [UndoStack.noteEdit, hcase]
        rfl
  | edit =>
    refine ⟨?_, ?_⟩
    · rw [recorded, hrole, ← hsnapshots]
      exact snapshots_push u.endRun moment.console.buffer
    · rw [typingOn, hrole, UndoStack.after, UndoStack.pushEdit, UndoStack.run_push]
      rfl
  | pause =>
    refine ⟨?_, ?_⟩
    · rw [recorded, hrole]
      exact hsnapshots
    · rw [typingOn, hrole]
      rfl
  | undoing =>
    refine ⟨?_, ?_⟩
    · rw [recorded, hrole, ← hsnapshots]
      exact u.snapshots_undo moment.console.buffer
    · rw [typingOn, hrole, UndoStack.after, UndoStack.run_undo]
      rfl
  | forgetting =>
    refine ⟨?_, ?_⟩
    · rw [recorded, hrole]
      rfl
    · rw [typingOn, hrole]
      rfl

/-- After any operations on a new console the stack holds what is recorded. -/
theorem recordedBy_run (prompt : Prompt) {ops : List ConsoleOp}
    (hops : ∀ op ∈ ops, op.AsksForSome) :
    RecordedBy ((ofPrompt prompt).run ops).undoStack
      ((ofPrompt prompt).moments ops).reverse := by
  -- from the end, as the record looks back from the last operation
  induction ops using List.reverseRecOn with
  | nil => exact ⟨rfl, rfl⟩
  | append_singleton ops op ih =>
    have hbefore := ih fun op hop => hops op (List.mem_append_left _ hop)
    have hcursor := ((inRange_ofPrompt prompt).run ops).cursor
    rw [run_concat, undoStack_perform hcursor (hops op (by simp)), moments_concat,
      List.reverse_append]
    exact hbefore.after ⟨(ofPrompt prompt).run ops, op⟩

end RecordedBy

/-- After any operations on a new console, each of which asks for a character at least, the undo
stack holds the lines and cursors that are recorded. If there is none, undo says so and leaves the
buffer alone. Otherwise it puts the line and the cursor back that were recorded last and forgets
them. The kill ring, the output, and the rest of the buffer stay as they are. -/
theorem undo_eq_recorded (prompt : Prompt) (ops : List ConsoleOp)
    (hops : ∀ op ∈ ops, op.AsksForSome) :
    let c := (ofPrompt prompt).run ops
    let kept := recorded ((ofPrompt prompt).moments ops).reverse
    c.undoStack.snapshots = kept ∧ (c.undo.2 = false ↔ kept = []) ∧
      (kept = [] → c.undo.1.buffer = c.buffer) ∧
      (∀ s rest, kept = s :: rest →
        c.undo.1.buffer = { c.buffer with line := s.line, cursor := s.cursor } ∧
          c.undo.1.undoStack.snapshots = rest) ∧
      c.undo.1.kills = c.kills ∧ c.undo.1.outbox = c.outbox := by
  intro c kept
  have hkept : c.undoStack.snapshots = kept := (recordedBy_run prompt hops).snapshots
  have hcursors := ((inRange_ofPrompt prompt).run ops).undo.cursors
  refine ⟨hkept, ?_, ?_, ?_, rfl, rfl⟩
  · cases hcase : kept with
    | nil => rw [undo_of_snapshots_eq_nil (hkept.trans hcase)]; simp
    | cons s rest => rw [undo_of_snapshots_eq_cons (hkept.trans hcase)]; simp
  · intro hnone
    rw [undo_of_snapshots_eq_nil (hkept.trans hnone)]
    rfl
  · intro s rest hsome
    have hsnapshots : c.undoStack.snapshots = s :: rest := hkept.trans hsome
    -- a cursor in its line is restored as it was
    have hcursor : s.cursor ≤ s.line.length := hcursors s (hsnapshots ▸ List.mem_cons_self)
    rw [undo_of_snapshots_eq_cons hsnapshots]
    exact ⟨c.buffer.restore_eq hcursor, rfl⟩

/-- A run of insertions that a move of the cursor does not end, a removal, a line that was there
before, and an undo, after which typing is an edit of its own. -/
theorem undo_eq_recorded_mixed :
    let ops : List ConsoleOp := [.insert ['a'], .onBuffer (.moveCursor (-1)), .insert ['b'],
      .deleteForward 1, .deleteForward 1, .undo, .insert ['c'], .replaceLine "bca".toList]
    let c := (ofPrompt {}).run ops
    (∀ op ∈ ops, op.AsksForSome) ∧
      c.undoStack.snapshots = [⟨['b', 'a'], 1⟩, ⟨[], 0⟩] ∧
      c.undo.1.buffer = { line := ['b', 'a'], cursor := 1 } := by
  intro ops c
  have hops : ∀ op ∈ ops, op.AsksForSome := by decide
  obtain ⟨hkept, -, -, hback, -⟩ := undo_eq_recorded {} ops hops
  refine ⟨hops, ?_, ?_⟩
  · rw [hkept]
    decide
  · rw [(hback ⟨['b', 'a'], 1⟩ [⟨[], 0⟩] (by decide)).1]
    decide

end Console

end LineEditor

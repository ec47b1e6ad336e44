import LineEditor.Proofs.Turn

/-!
# Undoing everything

Undo takes snapshots off a stack, and so an edit for which there is no snapshot could not be undone.
The question is where undoing everything leads to. It is the line of the oldest snapshot, or the
line itself when there is none, and what has to be shown is that no unit of input changes it.

Two things stand in the way. Within a run of insertions no snapshot is taken, which is right only
if there is one below the run; and a full stack loses its oldest snapshot. The first never happens.
The second may, and then the beginning is out of reach.

## Main definitions

* `UndoStack.Loses` — the oldest snapshot of a full stack was lost.
* `Console.oldestLine` is where undoing everything leads to, and `Console.Grounded` says that it is
  a given line and that a run of insertions has a snapshot below it.
* `Editor.undoAll` performs undo until there is nothing left to undo.

## Main results

* `Console.Turned.grounded` — a unit of input other than Enter keeps the oldest line.
* `Editor.line_undoAll` — undoing everything leads to the oldest line.
* `Editor.line_undoAll_takes` — from a reset or an Enter on, undoing everything leads to the empty
  line, unless a snapshot was lost.
-/

namespace LineEditor

namespace UndoStack

/-- From one stack to the next the oldest snapshot was lost: there was no room for one more, and
the next stack is just as full but another one. -/
def Loses (u v : UndoStack) : Prop :=
  maxDepth ≤ u.depth ∧ v.depth = maxDepth ∧ v.snapshots ≠ u.snapshots

instance (u v : UndoStack) : Decidable (u.Loses v) :=
  inferInstanceAs (Decidable (_ ∧ _ ∧ _))

/-- Where undoing everything leads to from a line: the line of the oldest snapshot, or the line
itself when there is none. -/
def oldestLine (u : UndoStack) (line : Text) : Text :=
  (u.snapshots.getLast?.map Snapshot.line).getD line

variable {u : UndoStack} {b : Buffer}

theorem snapshots_push_ne_nil (u : UndoStack) (b : Buffer) : (u.push b).snapshots ≠ [] := by
  rw [push]
  split
  · next hsame => exact List.ne_nil_of_mem (List.mem_of_mem_head? hsame)
  · simp [maxDepth]

/-- A push loses a snapshot exactly if the stack is full and does not skip the new snapshot. -/
theorem loses_push_iff :
    u.Loses (u.push b) ↔ maxDepth ≤ u.depth ∧ u.snapshots.head? ≠ some b.snapshot := by
  rw [push]
  split
  · next hsame => simp [Loses, hsame]
  · next hnew =>
    constructor
    · intro h
      exact ⟨h.1, hnew⟩
    · rintro ⟨hfull, -⟩
      have hlength : (b.snapshot :: u.snapshots).length = u.depth + 1 := List.length_cons
      refine ⟨hfull, ?_, ?_⟩
      · rw [depth, List.length_take, hlength]
        omega
      · intro heq
        -- the new snapshot is the newest one now
        have hhead := congrArg List.head? heq
        simp only [maxDepth, List.take_succ_cons, List.head?_cons] at hhead
        exact hnew hhead.symm

theorem oldestLine_of_ne_nil (h : u.snapshots ≠ []) (line line' : Text) :
    u.oldestLine line = u.oldestLine line' := by
  have hlast := List.getLast?_eq_some_getLast h
  rw [oldestLine, oldestLine, hlast]
  rfl

/-- Without its newest snapshot a stack leads from the line of that snapshot to where it led. -/
theorem oldestLine_of_eq_cons {s : Snapshot} {rest : List Snapshot} (h : u.snapshots = s :: rest)
    (line : Text) : u.oldestLine line = { u with snapshots := rest }.oldestLine s.line := by
  rw [oldestLine, oldestLine, h, List.getLast?_cons]
  cases rest.getLast? with
  | none => rfl
  | some s' => rfl

/-- With the snapshot on top the edited line may be anything. -/
theorem oldestLine_push (h : ¬u.Loses (u.push b)) (line : Text) :
    (u.push b).oldestLine line = u.oldestLine b.line := by
  rw [loses_push_iff] at h
  by_cases hsame : u.snapshots.head? = some b.snapshot
  · -- the snapshot is skipped, and the one it repeats stands for it
    have hne : u.snapshots ≠ [] := List.ne_nil_of_mem (List.mem_of_mem_head? hsame)
    have hpush : (u.push b).oldestLine line = u.oldestLine line := by rw [push, if_pos hsame]; rfl
    rw [hpush]
    exact oldestLine_of_ne_nil hne _ _
  · have hroom : u.snapshots.length + 1 ≤ maxDepth := by
      have hlt : ¬maxDepth ≤ u.depth := fun hfull => h ⟨hfull, hsame⟩
      rw [depth] at hlt
      omega
    have hpush : (u.push b).snapshots = b.snapshot :: u.snapshots := by
      rw [push, if_neg hsame]
      exact List.take_of_length_le hroom
    rw [oldestLine_of_eq_cons hpush]
    rfl

theorem snapshots_beginRun_ne_nil (hrun : u.run.isSome → u.snapshots ≠ []) (b : Buffer) :
    (u.beginRun b).snapshots ≠ [] := by
  rw [beginRun]
  split
  · exact snapshots_push_ne_nil u b
  · next hsome => exact hrun (by rw [hsome]; rfl)

/-- A run of insertions takes a snapshot when it begins, and while it goes on that one stands for
all that is typed. -/
theorem oldestLine_beginRun (hrun : u.run.isSome → u.snapshots ≠ [])
    (h : ¬u.Loses (u.beginRun b)) (line : Text) :
    (u.beginRun b).oldestLine line = u.oldestLine b.line := by
  cases hcase : u.run with
  | none =>
    have hbegin : u.beginRun b = { u.push b with run := some 0 } := by rw [beginRun, hcase]
    rw [hbegin] at h ⊢
    exact oldestLine_push h line
  | some n =>
    have hbegin : u.beginRun b = u := by rw [beginRun, hcase]
    have hne : u.snapshots ≠ [] := hrun (by rw [hcase]; rfl)
    rw [hbegin]
    exact oldestLine_of_ne_nil hne _ _

end UndoStack

namespace Console

/-- Where undoing everything leads to. -/
def oldestLine (c : Console) : Text :=
  c.undoStack.oldestLine c.buffer.line

/-- Undoing everything leads to a given line, and what is being typed can be undone. -/
structure Grounded (c : Console) (line : Text) : Prop where
  oldest : c.oldestLine = line
  run : c.undoStack.run.isSome → c.undoStack.snapshots ≠ []

variable {c c' : Console} {line : Text}

/-- Where no run of insertions is going on, only the oldest line counts. -/
theorem grounded_of_run_eq_none (holdest : c.oldestLine = line)
    (hrun : c.undoStack.run = none) : c.Grounded line := by
  refine ⟨holdest, ?_⟩
  intro hsome
  rw [hrun] at hsome
  contradiction

theorem grounded_of_snapshots_eq_nil (hsnapshots : c.undoStack.snapshots = [])
    (hrun : c.undoStack.run = none) : c.Grounded c.buffer.line := by
  refine grounded_of_run_eq_none ?_ hrun
  rw [oldestLine, UndoStack.oldestLine, hsnapshots]
  rfl

theorem Grounded.endRun (h : c.Grounded line) : c.endRun.Grounded line :=
  grounded_of_run_eq_none h.oldest rfl

theorem Grounded.write (h : c.Grounded line) (t : Text) : (c.write t).Grounded line :=
  ⟨h.oldest, h.run⟩

theorem Grounded.draw (h : c.Grounded line) : c.draw.Grounded line :=
  h.write c.buffer.drawing

theorem Edited.grounded (h : c.Edited c') (hkeeps : ¬c.undoStack.Loses c'.undoStack)
    (hc : c.Grounded line) : c'.Grounded line := by
  cases h with
  | same => exact hc
  | anew b k hb =>
    refine ⟨?_, ?_⟩
    · have hpush : (c.undoStack.endRun.push c.buffer).oldestLine b.line =
          c.undoStack.endRun.oldestLine c.buffer.line := UndoStack.oldestLine_push hkeeps b.line
      exact hpush.trans hc.oldest
    · intro _
      exact UndoStack.snapshots_push_ne_nil _ _

theorem grounded_insert (t : Text) (hkeeps : ¬c.undoStack.Loses (c.insert t).undoStack)
    (hc : c.Grounded line) : (c.insert t).Grounded line := by
  by_cases hempty : t = []
  · rw [hempty]
    exact hc
  · have hinsert : c.insert t = { c with
        undoStack := (c.undoStack.beginRun c.buffer).noteEdit
        buffer := c.buffer.insert t } := by
      rw [insert, if_neg (by simpa using hempty)]
    rw [hinsert] at hkeeps ⊢
    refine ⟨?_, fun _ => UndoStack.snapshots_beginRun_ne_nil hc.run c.buffer⟩
    have hbegin : (c.undoStack.beginRun c.buffer).oldestLine (c.buffer.insert t).line =
        c.undoStack.oldestLine c.buffer.line := UndoStack.oldestLine_beginRun hc.run hkeeps _
    exact hbegin.trans hc.oldest

/-- Undo leads closer to the oldest line, and never past it. -/
theorem oldestLine_undo (c : Console) : c.undo.1.oldestLine = c.oldestLine := by
  cases h : c.undoStack.snapshots with
  | nil =>
    rw [undo_of_snapshots_eq_nil h]
    rfl
  | cons s rest =>
    rw [undo_of_snapshots_eq_cons h]
    exact (UndoStack.oldestLine_of_eq_cons h c.buffer.line).symm

theorem run_undo (c : Console) : c.undo.1.undoStack.run = none :=
  c.undoStack.run_undo c.buffer

theorem Grounded.undo (hc : c.Grounded line) : c.undo.1.Grounded line :=
  grounded_of_run_eq_none (c.oldestLine_undo.trans hc.oldest) c.run_undo

theorem Acted.grounded {redraw : Bool} (h : c.Acted c' redraw)
    (hkeeps : ¬c.undoStack.Loses c'.undoStack) (hc : c.Grounded line) : c'.Grounded line := by
  cases h with
  | edited h hkept => exact h.grounded hkeeps hc
  | moved place hkept => exact ⟨hc.oldest, hc.run⟩
  | @unseen c' h =>
    have hedited : c'.Grounded line := h.grounded hkeeps hc
    exact hedited.draw
  | undone => exact hc.undo
  | listed s t => exact (hc.write s).write t

/-- A unit of input other than Enter keeps the oldest line, unless a snapshot is lost. -/
theorem Turned.grounded (h : c.Turned c') (hkeeps : ¬c.undoStack.Loses c'.undoStack)
    (hc : c.Grounded line) : c'.Grounded line := by
  cases h with
  | kept => exact hc
  | typed ch =>
    have hinsert : (c.insert [ch]).Grounded line := grounded_insert [ch] hkeeps hc
    exact hinsert.draw
  | @pasted c' h =>
    have hedited : c'.Grounded line := h.grounded hkeeps hc
    exact hedited.draw
  | @acted c' redraw h =>
    cases redraw with
    | false => exact h.grounded hkeeps hc.endRun
    | true =>
      have hacted : c'.Grounded line := h.grounded hkeeps hc.endRun
      exact hacted.draw

end Console

namespace Editor

theorem console_perform_undo (e : Editor) :
    (e.perform .undo).1.console =
        (if e.console.undo.2 then e.console.undo.1.draw else e.console.undo.1) ∧
      (e.perform .undo).2 = e.console.undo.2 :=
  ⟨console_settle _, rfl⟩

/-- An undo that reports something done has taken a snapshot off the stack. -/
theorem depth_perform_undo_lt {e : Editor} (h : (e.perform .undo).2 = true) :
    (e.perform .undo).1.console.undoStack.depth < e.console.undoStack.depth := by
  obtain ⟨hconsole, hdone⟩ := e.console_perform_undo
  rw [hdone] at h
  cases hsnapshots : e.console.undoStack.snapshots with
  | nil =>
    rw [Console.undo_of_snapshots_eq_nil hsnapshots] at h
    contradiction
  | cons s rest =>
    rw [hconsole, if_pos h, Console.undo_of_snapshots_eq_cons hsnapshots]
    simp [UndoStack.depth, hsnapshots, Console.draw, Console.write]

/-- Performs undo until it reports that there was nothing left to undo. -/
def undoAll (e : Editor) : Editor :=
  if h : (e.perform .undo).2 = true then
    have := depth_perform_undo_lt h
    undoAll (e.perform .undo).1
  else (e.perform .undo).1
termination_by e.console.undoStack.depth

theorem snapshots_eq_nil_of_perform_undo {e : Editor} (h : (e.perform .undo).2 = false) :
    e.console.undoStack.snapshots = [] := by
  rw [e.console_perform_undo.2] at h
  cases hs : e.console.undoStack.snapshots with
  | nil => rfl
  | cons s rest =>
    rw [Console.undo_of_snapshots_eq_cons hs] at h
    contradiction

/-- An undo that reports nothing done has left the line alone. -/
theorem console_perform_undo_of_eq_false {e : Editor} (h : (e.perform .undo).2 = false) :
    (e.perform .undo).1.console = e.console.endRun := by
  have hundo := Console.undo_of_snapshots_eq_nil (snapshots_eq_nil_of_perform_undo h)
  rw [e.console_perform_undo.1, hundo]
  rfl

/-- There is nothing left to undo. -/
theorem perform_undo_undoAll (e : Editor) : (e.undoAll.perform .undo).2 = false := by
  induction e using undoAll.induct with
  | case1 e h _ ih =>
    rw [undoAll, dif_pos h]
    exact ih
  | case2 e h =>
    have hdone : (e.perform .undo).2 = false := Bool.eq_false_iff.mpr h
    have hempty : (e.perform .undo).1.console.undoStack.snapshots = [] := by
      rw [console_perform_undo_of_eq_false hdone]
      exact snapshots_eq_nil_of_perform_undo hdone
    rw [undoAll, dif_neg h, (e.perform .undo).1.console_perform_undo.2,
      Console.undo_of_snapshots_eq_nil hempty]

theorem oldestLine_perform_undo (e : Editor) :
    (e.perform .undo).1.console.oldestLine = e.console.oldestLine := by
  rw [e.console_perform_undo.1]
  split
  · exact e.console.oldestLine_undo
  · exact e.console.oldestLine_undo

/-- Undoing everything leads to the oldest line. -/
theorem line_undoAll (e : Editor) : e.undoAll.buffer.line = e.console.oldestLine := by
  -- each undo takes a snapshot off the stack, until there is none
  induction e using undoAll.induct with
  | case1 e h _ ih =>
    rw [undoAll, dif_pos h, ih]
    exact e.oldestLine_perform_undo
  | case2 e h =>
    have hdone : (e.perform .undo).2 = false := Bool.eq_false_iff.mpr h
    rw [undoAll, dif_neg h, buffer, console_perform_undo_of_eq_false hdone, Console.oldestLine,
      UndoStack.oldestLine, snapshots_eq_nil_of_perform_undo hdone]
    rfl

/-- No snapshot is lost while the editor takes the units. -/
def KeepsSnapshots : Editor → List Token → Prop
  | _, [] => True
  | e, token :: rest =>
    ¬e.console.undoStack.Loses (e.take token).console.undoStack ∧ KeepsSnapshots (e.take token) rest

instance decidableKeepsSnapshots :
    (e : Editor) → (tokens : List Token) → Decidable (e.KeepsSnapshots tokens)
  | _, [] => inferInstanceAs (Decidable True)
  | e, token :: rest =>
    have := decidableKeepsSnapshots (e.take token) rest
    inferInstanceAs (Decidable (_ ∧ _))

variable {e f : Editor}

/-- Enter leaves an empty line and nothing to undo. -/
theorem Entered.grounded (h : e.Entered f) : f.console.Grounded [] := by
  have hline : f.console.buffer.line = [] := by
    have hbuffer : f.console.buffer = e.buffer.afterEnter e.ending := h.buffer
    rw [hbuffer]
    cases e.ending with
    | masked | complete | comment | escaped | openQuote => rfl
  rw [← hline]
  apply Console.grounded_of_snapshots_eq_nil
  · rw [h.undoStack]
    rfl
  · rw [h.undoStack]
    rfl

theorem entered_perform_acceptLine (e : Editor) : e.Entered (e.perform .acceptLine).1 :=
  (entered_acceptLine (e.prepare .acceptLine)).settle.of_prepare

theorem grounded_take {token : Token} (hcursor : e.buffer.CursorInLine)
    (hkeeps : ¬e.console.undoStack.Loses (e.take token).console.undoStack)
    (h : e.console.Grounded []) : (e.take token).console.Grounded [] := by
  by_cases haction : e.action? token = some .acceptLine
  · -- Enter starts anew, whatever it makes of the line
    exact (entered_take haction).grounded
  · exact (turned_take hcursor haction).grounded hkeeps h

theorem grounded_takes {tokens : List Token} (hcursor : e.buffer.CursorInLine)
    (hkeeps : e.KeepsSnapshots tokens) (h : e.console.Grounded []) :
    (e.takes tokens).console.Grounded [] := by
  induction tokens generalizing e with
  | nil => exact h
  | cons token rest ih =>
    obtain ⟨htoken, hrest⟩ := hkeeps
    exact ih (cursorInLine_take hcursor) hrest (grounded_take hcursor htoken h)

/-- Undo loses no edit of a read: after a reset, or an Enter on whatever line, undoing everything
leads to the empty line, provided that the undo stack never had to lose a snapshot meanwhile. -/
theorem line_undoAll_takes {tokens : List Token}
    (hstart : f = e.onConsole (·.reset) ∨ f = (e.perform .acceptLine).1)
    (hkeeps : f.KeepsSnapshots tokens) :
    (f.takes tokens).undoAll.buffer.line = [] ∧
      ((f.takes tokens).undoAll.perform .undo).2 = false := by
  have hground : f.buffer.CursorInLine ∧ f.console.Grounded [] := by
    rcases hstart with rfl | rfl
    · exact ⟨Nat.le_refl _, Console.grounded_of_snapshots_eq_nil rfl rfl⟩
    · have hentered := e.entered_perform_acceptLine
      refine ⟨?_, hentered.grounded⟩
      rw [hentered.buffer]
      exact cursorInLine_afterEnter _ _
  obtain ⟨hcursor, hfirst⟩ := hground
  have hlast : (f.takes tokens).console.Grounded [] := grounded_takes hcursor hkeeps hfirst
  exact ⟨(line_undoAll _).trans hlast.oldest, perform_undo_undoAll _⟩

/-- Typing, a kill, the command layer, a yank and its undo, a change of case, a recall, and a paste
with more typing behind it. -/
theorem line_undoAll_takes_mixed :
    let e : Editor := .new {} (History.push { capacity := 50 } "ls".toList) (.ofMode .vi) .enabled
    let f := (e.perform .acceptLine).1
    let tokens := typed "ab c\x17" ++ typed "\x1b" ++ typed "pu0~kA" ++ [.paste " x".toList] ++
      typed "y"
    f.KeepsSnapshots tokens ∧ (f.takes tokens).buffer.line = "ls xy".toList ∧
      (f.takes tokens).undoAll.buffer.line = [] := by
  intro e f tokens
  have hkeeps : f.KeepsSnapshots tokens := by decide
  have hline : (f.takes tokens).buffer.line = "ls xy".toList := by decide
  exact ⟨hkeeps, hline, (line_undoAll_takes (.inr rfl) hkeeps).1⟩

end Editor

end LineEditor

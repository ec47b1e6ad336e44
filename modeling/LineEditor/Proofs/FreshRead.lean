import LineEditor.Proofs.Enter
import LineEditor.Proofs.Recall
import LineEditor.Proofs.Run
import LineEditor.Shell

/-!
# What a read finds when it starts

A read is to find an empty line and nothing of the reads before it. A read that accepts a line
leaves everything as it should be except where stepping through the history stands: only an entry
that is put into the history takes that back. An interrupt empties the line, and leaves alone the
layer, a search that is going on, and stepping.

## Main definitions

* `Editor.StartsClean` — nothing is left over from the reads before.
* `Editor.StepsFromNewest` — what the reader of a line is promised about stepping.
* `Shell.editor` is the editor of a shell.

## Main results

* `Editor.StartsClean.stepsFromNewest` — a read that starts clean keeps the promise.
* `Engine.startsClean_iff` — which reads start clean.
-/

namespace LineEditor

namespace Editor

/-- Nothing is left over from earlier reads: the buffer is empty under its main prompt, there is
nothing to undo, and neither the command layer, nor a search, nor stepping goes on. -/
structure StartsClean (e : Editor) : Prop where
  buffer : e.buffer.reset = e.buffer
  snapshots : e.console.undoStack.snapshots = []
  run : e.console.undoStack.run = none
  layer : e.layer = .insert
  searchTerm : e.searchTerm = none
  fetch : e.history.fetch = e.history.entries.length

/-- The units of input are edits of the line: none of them is Enter or a recall. -/
def EditsOnly : Editor → List Token → Prop
  | _, [] => True
  | e, token :: rest =>
    (∀ action, e.action? token = some action →
      action ≠ .acceptLine ∧ action.isRecall = false) ∧ EditsOnly (e.take token) rest

/-- The first step of a read to an older entry recalls the newest one, and the step back recalls
the line as it was before. -/
def StepsFromNewest (e : Editor) : Prop :=
  ∀ (before between : List Token) (up down : Token) (newest : Text),
    e.history.enabled = true → e.history.entries.getLast? = some newest →
    e.EditsOnly before → (e.takes before).action? up = some .previousHistory →
    ((e.takes before).take up).EditsOnly between →
    (((e.takes before).take up).takes between).action? down = some .nextHistory →
    (e.takes before).recalled? up = some newest ∧
      (((e.takes before).take up).takes between).recalled? down =
        some (e.takes before).buffer.line

theorem EditsOnly.edited_takes {e : Editor} {tokens : List Token} (h : e.EditsOnly tokens) :
    e.Edited (e.takes tokens) := by
  induction tokens generalizing e with
  | nil => exact .refl e
  | cons token rest ih =>
    obtain ⟨hfirst, hrest⟩ := h
    exact (edited_take hfirst).trans (ih hrest)

theorem StartsClean.beginLine {e : Editor} (h : e.StartsClean) (prompt : Prompt) :
    (e.beginLine prompt).StartsClean := by
  obtain ⟨hbuffer, hsnapshots, hrun, hlayer, hterm, hfetch⟩ := h
  refine ⟨?_, hsnapshots, hrun, hlayer, hterm, hfetch⟩
  change (e.buffer.setPrompt prompt).reset = e.buffer.setPrompt prompt
  rw [← hbuffer]
  rfl

/-- In a read that starts clean, stepping begins at the newest entry and comes back to the line. -/
theorem StartsClean.stepsFromNewest {e : Editor} (h : e.StartsClean) : e.StepsFromNewest := by
  intro before between up down newest henabled hnewest hbefore hup hbetween hdown
  have hhistory : (e.takes before).history = e.history := hbefore.edited_takes.history_eq
  obtain ⟨hafter, -, hrecalled⟩ := recall_take hup rfl
  rw [look, hhistory,
    History.look_previous_of_fetch_eq henabled h.fetch hnewest] at hafter hrecalled
  refine ⟨hrecalled, ?_⟩
  have hpos := List.length_pos_of_mem (List.mem_of_getLast? hnewest)
  -- one step back from the newest entry is the draft, which is the line from before
  have hat : ((e.takes before).take up).history.AtDraftNext := by
    rw [hafter]
    refine ⟨henabled, ?_, ?_⟩
    · exact decide_eq_true (Nat.sub_lt hpos Nat.one_pos)
    · exact Nat.le_of_eq (Nat.sub_add_cancel hpos).symm
  obtain ⟨-, -, hback⟩ := recall_take hdown rfl
  rw [hback, look, hbetween.edited_takes.history_eq, History.look_next_of_atDraftNext hat, hafter]

/-- What Enter hands over to the next read is clean but for stepping, which only an entry that is
put into the history takes back. -/
theorem startsClean_readyForRead_iff {e : Editor} {token : Token} {line : Text}
    (hnow : e.accepted = none) (haccept : (e.take token).accepted = some line) :
    (Engine.readyForRead (e.take token).forgetAccepted).StartsClean ↔
      e.ending = .complete ∧ e.records line = true ∨
        e.history.fetch = e.history.entries.length := by
  obtain ⟨haction, hcompletes, rfl⟩ := (accepted_take_eq_some_iff hnow).mp haccept
  have henter := entered_take haction
  have hbuffer : (e.take token).buffer = e.buffer.reset := by
    rw [henter.buffer]
    cases hending : e.ending with
    | masked => rfl
    | complete => rfl
    | _ => simp [hending, LineEnding.completes] at hcompletes
  have hfetch : (e.take token).history.fetch = (e.take token).history.entries.length ↔
      e.ending = .complete ∧ e.records e.buffer.entry = true ∨
        e.history.fetch = e.history.entries.length := by
    rw [henter.history]
    split
    · next h => exact ⟨fun _ => .inl h, fun _ => rfl⟩
    · next h => exact ⟨.inr, fun h' => h'.resolve_left h⟩
  rw [← hfetch]
  constructor
  · intro h
    exact h.fetch
  · intro h
    refine ⟨?_, ?_, ?_, rfl, rfl, h⟩
    · change (e.take token).buffer.reset = (e.take token).buffer
      rw [hbuffer]
      rfl
    · exact congrArg UndoStack.snapshots henter.undoStack
    · exact congrArg UndoStack.run henter.undoStack

end Editor

/-- The editor of a shell. -/
def Shell.editor (s : Shell) : Editor :=
  s.online.state.reader.engine.editor

theorem Shell.startsClean_interrupt_iff (s : Shell) :
    s.interrupt.editor.StartsClean ↔
      s.editor.layer = .insert ∧ s.editor.searchTerm = none ∧
        s.editor.history.fetch = s.editor.history.entries.length := by
  constructor
  · intro h
    exact ⟨h.layer, h.searchTerm, h.fetch⟩
  · rintro ⟨hlayer, hterm, hfetch⟩
    exact ⟨rfl, rfl, rfl, hlayer, hterm, hfetch⟩

/-- Which reads start clean. Behind an accepted line the next read does exactly if the entry was put
into the history, or stepping was not going on; behind an interrupt exactly if nothing of the read
was going on that shows elsewhere than in the line. A read that starts clean under any prompt steps
through the history from its newest entry. -/
theorem Engine.startsClean_iff (e e' : Engine) (line : Text) (s : Shell)
    (hrun : e.run = (e', some line)) :
    (∃ before token rest, e.queue = before ++ token :: rest ∧
      let f := e.editor.forgetAccepted.takes before
      (f.take token).accepted = some line ∧
        (e'.editor.StartsClean ↔
          f.ending = .complete ∧ f.records line = true ∨
            f.history.fetch = f.history.entries.length)) ∧
      (s.interrupt.editor.StartsClean ↔
        s.editor.layer = .insert ∧ s.editor.searchTerm = none ∧
          s.editor.history.fetch = s.editor.history.entries.length) ∧
      ∀ (f : Editor) (prompt : Prompt), f.StartsClean → (f.beginLine prompt).StepsFromNewest := by
  refine ⟨?_, s.startsClean_interrupt_iff, fun f prompt h => (h.beginLine prompt).stepsFromNewest⟩
  obtain ⟨before, token, rest, hqueue, hgoes, haccept, rfl⟩ := run_eq_some hrun
  exact ⟨before, token, rest, hqueue, haccept,
    Editor.startsClean_readyForRead_iff hgoes.accepted_takes_eq_none haccept⟩

namespace Engine

theorem run_of_snd_eq {e : Engine} {line : Option Text} (h : e.run.2 = line) :
    e.run = (e.run.1, line) := by
  rw [← h]

/-- A read that accepts a line, and a shell at its first read. -/
theorem startsClean_iff_echo :
    let e : Engine :=
      { editor := .new {} { capacity := 50 } (.ofMode .emacs) .enabled, queue := typed "ls\r" }
    let s : Shell := ⟨Session.online e {}, {}⟩
    e.run.2 = some "ls".toList ∧
      (s.interrupt.editor.StartsClean ↔
        s.editor.layer = .insert ∧ s.editor.searchTerm = none ∧
          s.editor.history.fetch = s.editor.history.entries.length) := by
  have hline : (Engine.mk (.new {} { capacity := 50 } (.ofMode .emacs) .enabled) {}
      (typed "ls\r")).run.2 = some "ls".toList := by decide
  exact ⟨hline, (startsClean_iff _ _ "ls".toList _ (run_of_snd_eq hline)).2.1⟩

/-- Stepping goes on in the next read when the line is emptied before Enter, so that the next step
misses the newest entry, and an interrupt leaves the command layer on. -/
theorem stepping_and_layer_left_over :
    let history : History := (History.push { capacity := 50 } ['a']).push ['b']
    let e : Engine :=
      { editor := .new {} history (.ofMode .emacs) .enabled, queue := typed "\x1b[A\x15\r" }
    let vi : Editor := .new {} history (.ofMode .vi) .enabled
    let s : Shell := ⟨Session.online { editor := vi.takes (typed "\x1b") } {}, {}⟩
    e.run.2 = some [] ∧ e.run.1.editor.history.entries.getLast? = some ['b'] ∧
      ¬e.run.1.editor.StartsClean ∧
      (e.run.1.editor.takes (typed "\x1b[A")).buffer.line = ['a'] ∧
      ¬s.interrupt.editor.StartsClean := by
  refine ⟨by decide, by decide, ?_, by decide, ?_⟩
  · intro h
    exact absurd h.fetch (by decide)
  · intro h
    exact absurd h.layer (by decide)

end Engine

end LineEditor

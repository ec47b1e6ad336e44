import LineEditor.Editor.Perform

/-!
# What the actions leave alone

An action may change the line and what goes with it, but hardly any of them looks further. Only
Enter touches the entry that the line belongs to, the prompts and the accepted line, and only Enter
and the four actions that recall entries touch the history.

## Main definitions

* `Buffer.frame` is a buffer without its line, and `History.stored` a history without the
  positions in it.
* `Action.isRecall` singles out the actions that recall entries, and `Editor.action?` is the action
  that a unit of input performs.
* `Editor.Edited` — an editor that came from another one by working on the line alone, and
  `Editor.Framed` where the history may have been looked at as well.

## Main results

* `Editor.edited_take` — a unit that is neither Enter nor a recall works on the line alone.
* `Editor.framed_take` — a unit that is not Enter leaves the frame of the line alone, and of the
  history all but the positions and the draft.
-/

namespace LineEditor

namespace Buffer

/-- The buffer without the line that is being edited. -/
def frame (b : Buffer) : Buffer :=
  { b with line := [], cursor := 0 }

variable {b c : Buffer}

theorem folded_eq_of_frame_eq (h : b.frame = c.frame) : b.folded = c.folded :=
  (congrArg Buffer.folded h :)

theorem prompt_eq_of_frame_eq (h : b.frame = c.frame) : b.prompt = c.prompt :=
  (congrArg Buffer.prompt h :)

theorem mainPrompt_eq_of_frame_eq (h : b.frame = c.frame) : b.mainPrompt = c.mainPrompt :=
  (congrArg Buffer.mainPrompt h :)

end Buffer

namespace Console

variable (c : Console)

@[simp]
theorem frame_insert (t : Text) : (c.insert t).buffer.frame = c.buffer.frame := by
  rw [insert]
  split
  · rfl
  · rfl

@[simp]
theorem frame_insertDiscrete (t : Text) : (c.insertDiscrete t).buffer.frame = c.buffer.frame := by
  rw [insertDiscrete]
  split
  · rfl
  · rfl

@[simp]
theorem frame_deleteForward (n : Nat) :
    (c.deleteForward n).1.buffer.frame = c.buffer.frame := by
  rw [deleteForward]
  split
  · rfl
  · rfl

@[simp]
theorem frame_deletePrevious (n : Nat) :
    (c.deletePrevious n).1.buffer.frame = c.buffer.frame := by
  rw [deletePrevious]
  split
  · rfl
  · rfl

@[simp]
theorem frame_deleteRange (start stop : Nat) :
    (c.deleteRange start stop).1.buffer.frame = c.buffer.frame := by
  rw [deleteRange]
  split
  · rfl
  · rfl

@[simp]
theorem frame_deleteUnseen : c.deleteUnseen.1.buffer.frame = c.buffer.frame :=
  c.frame_deleteRange 0 c.buffer.line.length

@[simp]
theorem frame_replaceChar (ch : Char) (pos : Nat) :
    (c.replaceChar ch pos).1.buffer.frame = c.buffer.frame := by
  rw [replaceChar]
  split
  · rfl
  · rfl

@[simp]
theorem frame_replaceLine (t : Text) : (c.replaceLine t).buffer.frame = c.buffer.frame := by
  rw [replaceLine]
  split
  · rfl
  · rfl

@[simp]
theorem frame_yank : c.yank.1.buffer.frame = c.buffer.frame := by
  rw [yank]
  split
  · rfl
  · exact frame_insertDiscrete c _

@[simp]
theorem frame_undo : c.undo.1.buffer.frame = c.buffer.frame := by
  rw [undo, UndoStack.undo]
  split
  · next h => split at h <;> cases h <;> rfl

end Console

namespace History

/-- The history without the positions in it and the draft. -/
def stored (h : History) : History :=
  { h with fetch := 0, gap := 0, direction := .reverse, draft := [] }

variable (h : History)

@[simp]
theorem stored_previous : h.previous.1.stored = h.stored := by
  rw [previous]
  split
  · rfl
  · rfl

@[simp]
theorem stored_next : h.next.1.stored = h.stored := by
  rw [next]
  split
  · rfl
  · split
    · rfl
    · rfl

@[simp]
theorem stored_search (term : Text) : (h.search term).1.stored = h.stored := by
  simp only [search]
  split
  · rfl
  · rfl

end History

/-- The actions that recall an entry of the history. -/
def Action.isRecall : Action → Bool
  | previousHistory | nextHistory | reverseSearchHistory | forwardSearchHistory => true
  | _ => false

namespace Editor

/-- The second editor came from the first one by working on the line: the line, its undo stack and
the kill ring, the output, and the marks of how the line is being worked on. -/
structure Edited (e f : Editor) : Prop where
  rest : f = { e with
    console := f.console
    layer := f.layer
    searchTerm := f.searchTerm
    trail := f.trail }
  frame : f.buffer.frame = e.buffer.frame

/-- The same where the history may have been looked at as well. -/
structure Framed (e f : Editor) : Prop where
  rest : f = { e with
    console := f.console
    history := f.history
    layer := f.layer
    searchTerm := f.searchTerm
    trail := f.trail }
  frame : f.buffer.frame = e.buffer.frame
  stored : f.history.stored = e.history.stored

namespace Edited

variable {e f g : Editor}

theorem refl (e : Editor) : e.Edited e := ⟨rfl, rfl⟩

theorem trans (h : e.Edited f) (h' : f.Edited g) : e.Edited g := by
  refine ⟨?_, h'.frame.trans h.frame⟩
  rw [h'.rest, h.rest]

theorem history_eq (h : e.Edited f) : f.history = e.history :=
  (congrArg Editor.history h.rest :)

theorem framed (h : e.Edited f) : e.Framed f := by
  refine ⟨?_, h.frame, congrArg History.stored h.history_eq⟩
  rw [h.history_eq]
  exact h.rest

/-- A change of the console that keeps the frame of its buffer. -/
theorem onConsole {F : Console → Console} (h : ∀ c, (F c).buffer.frame = c.buffer.frame) :
    e.Edited (e.onConsole F) :=
  ⟨rfl, h e.console⟩

/-- A change of the buffer that keeps its frame. -/
theorem onBuffer {F : Buffer → Buffer} (h : ∀ b, (F b).frame = b.frame) :
    e.Edited (e.onBuffer F) :=
  ⟨rfl, h e.buffer⟩

theorem removing {edit : Console → Console × Nat}
    (h : ∀ c, (edit c).1.buffer.frame = c.buffer.frame) : e.Edited (e.removing edit).1 :=
  ⟨rfl, h e.console⟩

theorem moveTo (place : Nat) : e.Edited (e.moveTo place).1 :=
  ⟨rfl, rfl⟩

theorem insertAt (place : Nat) : e.Edited (e.insertAt place).1 :=
  ⟨rfl, rfl⟩

theorem restOnCharacter : e.Edited e.restOnCharacter := by
  rw [Editor.restOnCharacter]
  split
  · split
    · exact onBuffer fun _ => rfl
    · exact refl e
  · exact refl e

theorem deleteChar : e.Edited e.deleteChar.1 := by
  rw [Editor.deleteChar]
  split
  · exact onConsole Console.frame_deleteUnseen
  · have hremoved : e.Edited (e.removing (·.deleteForward 1)).1 :=
      removing fun c => c.frame_deleteForward 1
    dsimp only
    split
    · exact hremoved.trans restOnCharacter
    · exact hremoved

theorem backwardDeleteChar : e.Edited e.backwardDeleteChar.1 := by
  rw [Editor.backwardDeleteChar]
  split
  · exact onConsole Console.frame_deleteUnseen
  · exact removing fun c => c.frame_deletePrevious 1

theorem changeCase : e.Edited e.changeCase.1 := by
  rw [Editor.changeCase]
  split
  · exact refl e
  · exact (onConsole fun c => c.frame_replaceChar _ _).trans (onBuffer fun _ => rfl)

theorem enterCommandLayer : e.Edited e.enterCommandLayer.1 := by
  rw [Editor.enterCommandLayer]
  split
  · exact refl e
  · exact ⟨rfl, rfl⟩

theorem listCandidates (candidates : List Text) : e.Edited (e.listCandidates candidates) := by
  rw [Editor.listCandidates]
  exact onConsole fun _ => rfl

theorem offer (r : CompletionRequest) : e.Edited (e.offer r) := by
  rw [Editor.offer]
  split
  · exact onConsole fun c => c.frame_insertDiscrete _
  · generalize (if r.ignoreStartsWith then [] else Text.commonStart _) = common
    dsimp only
    split
    · exact listCandidates _
    · exact onConsole fun c => c.frame_insertDiscrete _

theorem complete : e.Edited e.complete.1 := by
  rw [Editor.complete]
  split
  · exact refl e
  · exact offer _

/-- Every action that is neither Enter nor a recall works on the line alone. -/
theorem apply {action : Action} (haccept : action ≠ .acceptLine)
    (hrecall : action.isRecall = false) : e.Edited (e.apply action).1 := by
  cases action with
  | acceptLine => exact absurd rfl haccept
  | previousHistory | nextHistory | reverseSearchHistory | forwardSearchHistory =>
    simp [Action.isRecall] at hrecall
  | deleteChar => exact deleteChar
  | backwardDeleteChar => exact backwardDeleteChar
  | changeCaseChar => exact changeCase
  | killLine => exact removing fun c => c.frame_deleteRange _ _
  | unixLineDiscard => exact removing fun c => c.frame_deleteRange _ _
  | backwardKillWord => exact removing fun c => c.frame_deleteRange _ _
  | yank => exact ⟨rfl, e.console.frame_yank⟩
  | undo => exact ⟨rfl, e.console.frame_undo⟩
  | complete => exact complete
  | forwardChar | backwardChar | forwardWord | backwardWord | beginningOfLine | endOfLine =>
    exact moveTo _
  | viMovementMode => exact enterCommandLayer
  | viInsertMode => exact ⟨rfl, rfl⟩
  | viAppendMode | viInsertBeginningOfLine | viAppendEndOfLine => exact insertAt _

theorem prepare (action : Action) : e.Edited (e.prepare action) :=
  ⟨rfl, rfl⟩

theorem settle (outcome : Outcome) : outcome.1.Edited (Editor.settle outcome) := by
  rw [Editor.settle]
  split
  · exact onConsole fun _ => rfl
  · exact refl _

end Edited

namespace Framed

variable {e f g : Editor}

theorem trans (h : e.Framed f) (h' : f.Framed g) : e.Framed g := by
  refine ⟨?_, h'.frame.trans h.frame, h'.stored.trans h.stored⟩
  rw [h'.rest, h.rest]

theorem accepted_eq (h : e.Framed f) : f.accepted = e.accepted :=
  (congrArg Editor.accepted h.rest :)

theorem entries_eq (h : e.Framed f) : f.history.entries = e.history.entries :=
  (congrArg History.entries h.stored :)

theorem folded_eq (h : e.Framed f) : f.buffer.folded = e.buffer.folded :=
  Buffer.folded_eq_of_frame_eq h.frame

theorem prompt_eq (h : e.Framed f) : f.buffer.prompt = e.buffer.prompt :=
  Buffer.prompt_eq_of_frame_eq h.frame

theorem mainPrompt_eq (h : e.Framed f) : f.buffer.mainPrompt = e.buffer.mainPrompt :=
  Buffer.mainPrompt_eq_of_frame_eq h.frame

theorem putRecalled {step : History × Option Text}
    (h : step.1.stored = e.history.stored) : e.Framed (e.putRecalled step).1 := by
  rw [Editor.putRecalled]
  split
  · exact ⟨rfl, rfl, h⟩
  · exact ⟨rfl, Console.frame_replaceLine _ _, h⟩

theorem previousEntry : e.Framed e.previousEntry.1 := by
  rw [Editor.previousEntry]
  split
  · exact ⟨rfl, rfl, rfl⟩
  · refine putRecalled ?_
    rw [History.stored_previous]
    split
    · rfl
    · rfl

theorem nextEntry : e.Framed e.nextEntry.1 := by
  rw [Editor.nextEntry]
  split
  · exact ⟨rfl, rfl, rfl⟩
  · exact putRecalled e.history.stored_next

theorem searchHistory (direction : SearchDirection) :
    e.Framed (e.searchHistory direction).1 := by
  rw [Editor.searchHistory]
  split
  · exact ⟨rfl, rfl, rfl⟩
  · dsimp only
    split
    · exact ⟨rfl, rfl, rfl⟩
    · have hterm : e.Framed { e with searchTerm := some (e.searchTerm.getD e.buffer.line) } :=
        ⟨rfl, rfl, rfl⟩
      exact hterm.trans (putRecalled (History.stored_search _ _))

/-- Every action but Enter works on the line and the positions in the history only. -/
theorem apply {action : Action} (h : action ≠ .acceptLine) : e.Framed (e.apply action).1 := by
  cases hrecall : action.isRecall with
  | false => exact (Edited.apply h hrecall).framed
  | true =>
    cases action with
    | previousHistory => exact previousEntry
    | nextHistory => exact nextEntry
    | reverseSearchHistory => exact searchHistory .reverse
    | forwardSearchHistory => exact searchHistory .forward
    | _ => simp [Action.isRecall] at hrecall

end Framed

theorem buffer_settle (outcome : Outcome) : (settle outcome).buffer = outcome.1.buffer := by
  rw [settle]
  split
  · rfl
  · rfl

/-- The action that a unit of input performs, if it is a key that is bound to one. -/
def action? (e : Editor) : Token → Option Action
  | .key k => (e.keymap.lookup e.layer k).bind Action.ofName?
  | .paste _ => none

theorem take_of_action?_eq_some {e : Editor} {token : Token} {action : Action}
    (h : e.action? token = some action) : e.take token = (e.perform action).1 := by
  cases token with
  | paste t => simp [action?] at h
  | key k =>
    obtain ⟨name, hname, haction⟩ := Option.bind_eq_some_iff.mp h
    simp [take, press, hname, performNamed, haction]

/-- A unit of input that performs no action types something, or does nothing. -/
theorem edited_take_of_action?_eq_none {e : Editor} {token : Token}
    (h : e.action? token = none) : e.Edited (e.take token) := by
  cases token with
  | paste t =>
    rw [take, insertPaste]
    split
    · exact .refl e
    · split
      · exact .refl e
      · exact ⟨rfl, Console.frame_insertDiscrete _ _⟩
  | key k =>
    rw [take, press]
    split
    · next name hname =>
      have haction : Action.ofName? name = none := by simpa [action?, hname] using h
      rw [performNamed, haction]
      exact .refl e
    · split
      · exact ⟨rfl, Console.frame_insert _ _⟩
      · exact .refl e

/-- A unit of input that is not Enter works on the line and the positions in the history only. -/
theorem framed_take {e : Editor} {token : Token} (h : e.action? token ≠ some .acceptLine) :
    e.Framed (e.take token) := by
  cases haction : e.action? token with
  | none => exact (edited_take_of_action?_eq_none haction).framed
  | some action =>
    rw [take_of_action?_eq_some haction]
    have happly := Framed.apply (e := e.prepare action) fun heq => h (heq ▸ haction)
    exact ((Edited.prepare action).framed.trans happly).trans (Edited.settle _).framed

/-- A unit of input that is neither Enter nor a recall works on the line alone. -/
theorem edited_take {e : Editor} {token : Token}
    (h : ∀ action, e.action? token = some action →
      action ≠ .acceptLine ∧ action.isRecall = false) :
    e.Edited (e.take token) := by
  cases haction : e.action? token with
  | none => exact edited_take_of_action?_eq_none haction
  | some action =>
    obtain ⟨haccept, hrecall⟩ := h action haction
    rw [take_of_action?_eq_some haction]
    exact ((Edited.prepare action).trans (Edited.apply haccept hrecall)).trans (Edited.settle _)

end Editor

end LineEditor

import LineEditor.Proofs.Enter
import LineEditor.Proofs.Recall

/-!
# What a unit of input does to the console

There are many actions but few things that they do to the console. Leaving Enter aside, a unit of
input types a character, puts an edited line in the place of the line and keeps a snapshot for it,
moves the cursor, undoes, or writes below the line; and it says whether the line has to be drawn
anew. The actions are gone through once, here, and what holds of every unit is told by these cases.

## Main definitions

* `Buffer.CursorInLine` — the cursor stands in the line or at its end.
* `Console.Edited` is one edit of the line, `Console.Acted` what an action does, and
  `Console.Turned` what a unit of input does.

## Main results

* `Editor.acts_apply` — every action but Enter does one of the things named in `Console.Acted`.
* `Editor.turned_take` — every unit but Enter does one of the things named in `Console.Turned`.
* `Editor.cursorInLine_take` — the cursor stays in the line, with Enter as well.
-/

namespace LineEditor

namespace Buffer

/-- The cursor stands in the line or at its end. -/
def CursorInLine (b : Buffer) : Prop := b.cursor ≤ b.line.length

instance (b : Buffer) : Decidable b.CursorInLine :=
  inferInstanceAs (Decidable (_ ≤ _))

theorem cursorInLine_setCursor (b : Buffer) (place : Nat) : (b.setCursor place).CursorInLine :=
  b.cursor_setCursor_le place

theorem cursorInLine_replace (b : Buffer) (t : Text) : (b.replace t).CursorInLine :=
  Nat.le_refl _

theorem cursorInLine_deleteRange (b : Buffer) (start stop : Nat) :
    (b.deleteRange start stop).1.CursorInLine := by
  simp only [CursorInLine, deleteRange, List.length_append, List.length_take, List.length_drop]
  omega

namespace CursorInLine

variable {b : Buffer}

theorem insert (h : b.CursorInLine) (t : Text) : (b.insert t).CursorInLine := by
  have hline : b.cursor ≤ b.line.length := h
  simp only [CursorInLine, Buffer.insert, List.length_append, List.length_take, List.length_drop]
  omega

theorem deleteForward (h : b.CursorInLine) (n : Nat) : (b.deleteForward n).1.CursorInLine := by
  have hline : b.cursor ≤ b.line.length := h
  simp only [CursorInLine, Buffer.deleteForward, List.length_append, List.length_take,
    List.length_drop]
  omega

theorem deletePrevious (h : b.CursorInLine) (n : Nat) : (b.deletePrevious n).1.CursorInLine := by
  have hline : b.cursor ≤ b.line.length := h
  simp only [CursorInLine, Buffer.deletePrevious, List.length_append, List.length_take,
    List.length_drop]
  omega

end CursorInLine

end Buffer

namespace Console

/-- One edit of the line: there was nothing to edit, or the line is another one now and a snapshot
was taken for it. -/
inductive Edited (c : Console) : Console → Prop
  | same : Edited c c
  | anew (b : Buffer) (k : KillRing) (h : b.CursorInLine) :
    Edited c { c.snapshot with buffer := b, kills := k }

/-- What an action does to the console, and whether it asks for the line to be drawn. An action
that does not ask for it has left the line as it stands on the screen, or has drawn it. -/
inductive Acted (c : Console) : Console → Bool → Prop
  | edited {c' : Console} {redraw : Bool} (h : c.Edited c') (hkept : redraw = false → c' = c) :
    Acted c c' redraw
  | moved (place : Nat) {redraw : Bool}
    (hkept : redraw = false → c.buffer.setCursor place = c.buffer) :
    Acted c (c.onBuffer (·.setCursor place)) redraw
  | unseen {c' : Console} (h : c.Edited c') : Acted c c'.draw false
  | undone : Acted c c.undo.1 true
  | listed (s t : Text) : Acted c ((c.write s).write t) true

/-- What a unit of input does to the console. -/
inductive Turned (c : Console) : Console → Prop
  | kept : Turned c c
  | typed (ch : Char) : Turned c (c.insert [ch]).draw
  | pasted {c' : Console} (h : c.Edited c') : Turned c c'.draw
  | acted {c' : Console} {redraw : Bool} (h : c.endRun.Acted c' redraw) :
    Turned c (if redraw then c'.draw else c')

section Edits

variable {c : Console}

theorem buffer_insertDiscrete (c : Console) (t : Text) :
    (c.insertDiscrete t).buffer = c.buffer.insert t := by
  rw [insertDiscrete]
  split
  · next hempty => simp [List.isEmpty_iff.mp hempty, Buffer.insert]
  · rfl

theorem edited_insertDiscrete (h : c.buffer.CursorInLine) (t : Text) :
    c.Edited (c.insertDiscrete t) := by
  rw [insertDiscrete]
  split
  · exact .same
  · exact .anew _ _ (h.insert t)

theorem edited_replaceLine (t : Text) : c.Edited (c.replaceLine t) := by
  rw [replaceLine]
  split
  · exact .same
  · exact .anew _ _ (c.buffer.cursorInLine_replace t)

/-- Text is removed if there is any where it should be removed. -/
theorem edited_deleteRange (start stop : Nat) :
    c.Edited (c.deleteRange start stop).1 ∧
      ((c.deleteRange start stop).2 = 0 → (c.deleteRange start stop).1 = c) := by
  rw [deleteRange]
  split
  · exact ⟨.same, fun _ => rfl⟩
  · next hsome =>
    refine ⟨.anew _ _ (c.buffer.cursorInLine_deleteRange start stop), ?_⟩
    intro hnone
    -- a range that begins in the line holds at least one character
    have hlength : ((c.buffer.line.take (min stop c.buffer.line.length)).drop
        (min start (min stop c.buffer.line.length))).length = 0 := hnone
    rw [List.length_drop, List.length_take] at hlength
    omega

theorem edited_deletePrevious (h : c.buffer.CursorInLine) :
    c.Edited (c.deletePrevious 1).1 ∧
      ((c.deletePrevious 1).2 = 0 → (c.deletePrevious 1).1 = c) := by
  rw [deletePrevious]
  split
  · exact ⟨.same, fun _ => rfl⟩
  · next hcursor =>
    refine ⟨.anew _ _ (h.deletePrevious 1), ?_⟩
    intro hnone
    -- a cursor that is not at the start has a character before it
    have hlength : ((c.buffer.line.take c.buffer.cursor).drop
        (c.buffer.cursor - 1)).length = 0 := hnone
    have hline : c.buffer.cursor ≤ c.buffer.line.length := h
    rw [List.length_drop, List.length_take] at hlength
    omega

theorem edited_yank (h : c.buffer.CursorInLine) :
    c.Edited c.yank.1 ∧ (c.yank.2 = false → c.yank.1 = c) := by
  rw [yank]
  split
  · exact ⟨.same, fun _ => rfl⟩
  · exact ⟨edited_insertDiscrete h _, fun hdone => absurd hdone Bool.noConfusion⟩

theorem undo_of_snapshots_eq_nil (h : c.undoStack.snapshots = []) :
    c.undo = (c.endRun, false) := by
  simp [undo, UndoStack.undo, h, endRun]

theorem undo_of_snapshots_eq_cons {s : Snapshot} {rest : List Snapshot}
    (h : c.undoStack.snapshots = s :: rest) :
    c.undo = ({ c with
      undoStack := { c.undoStack.endRun with snapshots := rest }
      buffer := c.buffer.restore s }, true) := by
  simp [undo, UndoStack.undo, h]

/-- Undo without a snapshot ends a run of insertions and does nothing else. -/
theorem acted_undo (hrun : c.endRun = c) : c.Acted c.undo.1 c.undo.2 := by
  cases h : c.undoStack.snapshots with
  | nil =>
    rw [undo_of_snapshots_eq_nil h, hrun]
    exact .edited .same fun _ => rfl
  | cons s rest =>
    have hdone : c.undo.2 = true := by rw [undo_of_snapshots_eq_cons h]
    rw [hdone]
    exact .undone

end Edits

section CursorInLine

variable {c c' : Console}

theorem Edited.cursorInLine (h : c.Edited c') (hcursor : c.buffer.CursorInLine) :
    c'.buffer.CursorInLine := by
  cases h with
  | same => exact hcursor
  | anew b k hb => exact hb

theorem cursorInLine_undo (hcursor : c.buffer.CursorInLine) :
    c.undo.1.buffer.CursorInLine := by
  cases h : c.undoStack.snapshots with
  | nil =>
    rw [undo_of_snapshots_eq_nil h]
    exact hcursor
  | cons s rest =>
    rw [undo_of_snapshots_eq_cons h]
    exact Buffer.cursorInLine_setCursor _ _

theorem Acted.cursorInLine {redraw : Bool} (h : c.Acted c' redraw)
    (hcursor : c.buffer.CursorInLine) : c'.buffer.CursorInLine := by
  cases h with
  | edited h hkept => exact h.cursorInLine hcursor
  | moved place hkept => exact c.buffer.cursorInLine_setCursor place
  | unseen h => exact h.cursorInLine hcursor
  | undone => exact cursorInLine_undo hcursor
  | listed s t => exact hcursor

theorem cursorInLine_insert (hcursor : c.buffer.CursorInLine) (t : Text) :
    (c.insert t).buffer.CursorInLine := by
  rw [insert]
  split
  · exact hcursor
  · exact hcursor.insert t

theorem Turned.cursorInLine (h : c.Turned c') (hcursor : c.buffer.CursorInLine) :
    c'.buffer.CursorInLine := by
  cases h with
  | kept => exact hcursor
  | typed ch => exact cursorInLine_insert hcursor [ch]
  | pasted h => exact h.cursorInLine hcursor
  | @acted c' redraw h =>
    have hacted : c'.buffer.CursorInLine := h.cursorInLine hcursor
    cases redraw with
    | false => exact hacted
    | true => exact hacted

end CursorInLine

end Console

namespace Editor

/-- What an action left is one of the things that actions do to the console. -/
def Acts (e : Editor) (outcome : Outcome) : Prop :=
  e.console.Acted outcome.1.console outcome.2

section Acts

variable {e : Editor}

/-- An action that finds nothing to do. -/
theorem acts_kept : e.Acts (e, false) :=
  .edited .same fun _ => rfl

/-- An edit after which the line is drawn. -/
theorem acts_edited {f : Editor} (h : e.console.Edited f.console) : e.Acts (f, true) :=
  .edited h fun hredraw => absurd hredraw Bool.noConfusion

/-- An edit that counts what it removes. -/
theorem acts_removing {edit : Console → Console × Nat}
    (h : e.console.Edited (edit e.console).1 ∧
      ((edit e.console).2 = 0 → (edit e.console).1 = e.console)) :
    e.Acts (e.removing edit) := by
  refine .edited h.1 ?_
  intro hredraw
  have hnone : (edit e.console).2 = 0 := Nat.eq_zero_of_not_pos (of_decide_eq_false hredraw)
  exact h.2 hnone

theorem acts_moveTo (place : Nat) : e.Acts (e.moveTo place) := by
  refine .moved _ ?_
  intro hredraw
  have hsame : e.buffer.cursor = (e.moveTo place).1.buffer.cursor := by
    simpa [moveTo, -buffer_onBuffer] using hredraw
  -- a cursor that ends where it stood has not moved
  have hput : e.buffer.setCursor (min place e.lastPlace) = { e.buffer with
      cursor := (e.moveTo place).1.buffer.cursor } := rfl
  rw [← hsame] at hput
  exact hput

theorem acts_insertAt (place : Nat) : e.Acts (e.insertAt place) :=
  .moved place fun hredraw => absurd hredraw Bool.noConfusion

theorem acts_removeUnseen : e.Acts e.removeUnseen :=
  .unseen (Console.edited_deleteRange 0 e.console.buffer.line.length).1

/-- An edit after which the cursor may come to rest elsewhere. -/
theorem acts_restOnCharacter {b : Buffer} {k : KillRing} (hb : b.CursorInLine) :
    e.Acts (({ e with console := { e.console.snapshot with buffer := b, kills := k } } :
      Editor).restOnCharacter, true) := by
  rw [restOnCharacter]
  split
  · split
    · have hmoved : (b.moveCursor (-1)).CursorInLine := b.cursorInLine_setCursor _
      exact acts_edited (.anew _ k hmoved)
    · exact acts_edited (.anew b k hb)
  · exact acts_edited (.anew b k hb)

theorem removing_deleteForward_of_le (h : e.buffer.line.length ≤ e.buffer.cursor) :
    e.removing (·.deleteForward 1) = (e, false) := by
  have hend : e.console.buffer.line.length ≤ e.console.buffer.cursor := h
  simp [removing, Console.deleteForward, hend]

/-- There is a character to remove wherever the cursor is not at the end. -/
theorem removing_deleteForward_of_lt (h : e.buffer.cursor < e.buffer.line.length) :
    e.removing (·.deleteForward 1) =
      ({ e with console := (e.console.remove (·.deleteForward 1)).1 }, true) := by
  have hend : ¬e.console.buffer.line.length ≤ e.console.buffer.cursor := Nat.not_le.mpr h
  have hone : ((e.console.buffer.line.drop e.console.buffer.cursor).take 1).length = 1 := by
    rw [List.length_take, List.length_drop]
    omega
  simp [removing, Console.deleteForward, hend, Console.remove, Buffer.deleteForward, hone]

theorem acts_deleteChar (hcursor : e.buffer.CursorInLine) : e.Acts e.deleteChar := by
  rw [deleteChar]
  split
  · exact acts_removeUnseen
  · by_cases hend : e.buffer.line.length ≤ e.buffer.cursor
    · rw [removing_deleteForward_of_le hend]
      exact acts_kept
    · -- the cursor may come to rest elsewhere afterwards
      rw [removing_deleteForward_of_lt (Nat.not_le.mp hend)]
      exact acts_restOnCharacter (hcursor.deleteForward 1)

theorem acts_backwardDeleteChar (hcursor : e.buffer.CursorInLine) :
    e.Acts e.backwardDeleteChar := by
  rw [backwardDeleteChar]
  split
  · exact acts_removeUnseen
  · exact acts_removing (Console.edited_deletePrevious hcursor)

theorem changeCase_of_eq_none (h : e.buffer.line[e.buffer.cursor]? = none) :
    e.changeCase = (e, false) := by
  rw [changeCase, h]

theorem changeCase_of_eq_some {ch : Char} (h : e.buffer.line[e.buffer.cursor]? = some ch) :
    e.changeCase =
      (e.onConsole fun c => c.snapshot.onBuffer fun b =>
        (b.replaceChar (Unicode.toggleCase ch) b.cursor).1.moveCursor 1, true) := by
  have hlt : e.console.buffer.cursor < e.console.buffer.line.length :=
    (List.getElem?_eq_some_iff.mp h).1
  have hreplace : (e.console.replaceChar (Unicode.toggleCase ch) e.console.buffer.cursor).1 =
      e.console.snapshot.onBuffer fun b =>
        (b.replaceChar (Unicode.toggleCase ch) e.console.buffer.cursor).1 := by
    rw [Console.replaceChar, if_neg (Nat.not_le.mpr hlt)]
  rw [changeCase, h]
  dsimp only
  rw [onConsole, buffer, hreplace]
  rfl

theorem acts_changeCase : e.Acts e.changeCase := by
  cases h : e.buffer.line[e.buffer.cursor]? with
  | none =>
    rw [changeCase_of_eq_none h]
    exact acts_kept
  | some ch =>
    rw [changeCase_of_eq_some h]
    exact acts_edited (.anew _ e.console.kills (Buffer.cursorInLine_setCursor _ _))

theorem acts_yank (hcursor : e.buffer.CursorInLine) : e.Acts e.yank :=
  .edited (Console.edited_yank hcursor).1 (Console.edited_yank hcursor).2

theorem acts_enterCommandLayer (hrun : e.console.endRun = e.console) :
    e.Acts e.enterCommandLayer := by
  rw [enterCommandLayer]
  split
  · exact acts_kept
  · have hmoved : e.console.Acted (e.console.endRun.onBuffer (·.moveCursor (-1))) true := by
      rw [hrun]
      exact .moved _ fun h => absurd h Bool.noConfusion
    exact hmoved

theorem acts_offer (hcursor : e.buffer.CursorInLine) (r : CompletionRequest) :
    e.Acts (e.offer r, true) := by
  rw [offer]
  split
  · exact acts_edited (Console.edited_insertDiscrete hcursor _)
  · generalize (if r.ignoreStartsWith then [] else Text.commonStart _) = common
    dsimp only
    split
    · exact .listed _ _
    · exact acts_edited (Console.edited_insertDiscrete hcursor _)

theorem acts_complete (hcursor : e.buffer.CursorInLine) : e.Acts e.complete := by
  rw [complete]
  split
  · exact acts_kept
  · exact acts_offer hcursor _

theorem acts_putRecalled (step : History × Option Text) : e.Acts (e.putRecalled step) := by
  rw [putRecalled]
  split
  · exact .edited .same fun _ => rfl
  · exact acts_edited (Console.edited_replaceLine _)

theorem acts_of_isRecall {action : Action} (h : action.isRecall = true) :
    e.Acts (e.apply action) := by
  obtain ⟨term, heq⟩ := e.exists_apply_eq_putRecalled h
  -- what is searched for is noted first, and that leaves the console alone
  have hput := acts_putRecalled (e := { e with searchTerm := term }) (e.look action)
  rw [heq]
  exact hput

/-- What an action does to the console when no run of insertions is going on. -/
theorem acts_apply {action : Action} (hcursor : e.buffer.CursorInLine)
    (hrun : e.console.endRun = e.console) (h : action ≠ .acceptLine) :
    e.Acts (e.apply action) := by
  cases action with
  | acceptLine => exact absurd rfl h
  | deleteChar => exact acts_deleteChar hcursor
  | backwardDeleteChar => exact acts_backwardDeleteChar hcursor
  | changeCaseChar => exact acts_changeCase
  | killLine => exact acts_removing (Console.edited_deleteRange _ _)
  | unixLineDiscard => exact acts_removing (Console.edited_deleteRange _ _)
  | backwardKillWord => exact acts_removing (Console.edited_deleteRange _ _)
  | yank => exact acts_yank hcursor
  | forwardChar | backwardChar | forwardWord | backwardWord | beginningOfLine | endOfLine =>
    exact acts_moveTo _
  | previousHistory | nextHistory | reverseSearchHistory | forwardSearchHistory =>
    exact acts_of_isRecall rfl
  | complete => exact acts_complete hcursor
  | undo => exact Console.acted_undo hrun
  | viMovementMode => exact acts_enterCommandLayer hrun
  | viInsertMode => exact .edited .same fun _ => rfl
  | viAppendMode | viInsertBeginningOfLine | viAppendEndOfLine => exact acts_insertAt _

end Acts

theorem console_settle (outcome : Outcome) :
    (settle outcome).console =
      if outcome.2 then outcome.1.console.draw else outcome.1.console := by
  rw [settle]
  split
  · rfl
  · rfl

/-- What a unit of input other than Enter does to the console. -/
theorem turned_take {e : Editor} {token : Token} (hcursor : e.buffer.CursorInLine)
    (h : e.action? token ≠ some .acceptLine) : e.console.Turned (e.take token).console := by
  cases haction : e.action? token with
  | some action =>
    have haccept : action ≠ .acceptLine := fun heq => h (heq ▸ haction)
    have hacts : (e.prepare action).Acts ((e.prepare action).apply action) :=
      acts_apply hcursor rfl haccept
    rw [take_of_action?_eq_some haction, perform, console_settle]
    exact .acted hacts
  | none =>
    cases token with
    | paste t =>
      rw [take, insertPaste]
      split
      · exact .kept
      · split
        · exact .kept
        · exact .pasted (Console.edited_insertDiscrete hcursor _)
    | key k =>
      rw [take, press]
      split
      · next name hname =>
        have hnone : Action.ofName? name = none := by simpa [action?, hname] using haction
        rw [performNamed, hnone]
        exact .kept
      · split
        · exact .typed _
        · exact .kept

theorem cursorInLine_afterEnter (b : Buffer) (ending : LineEnding) :
    (b.afterEnter ending).CursorInLine := by
  cases ending with
  | masked | complete | comment | escaped | openQuote => exact Nat.le_refl _

/-- Whatever the unit of input, the cursor stays in the line. -/
theorem cursorInLine_take {e : Editor} {token : Token} (hcursor : e.buffer.CursorInLine) :
    (e.take token).buffer.CursorInLine := by
  by_cases haction : e.action? token = some .acceptLine
  · rw [(entered_take haction).buffer]
    exact cursorInLine_afterEnter _ _
  · exact (turned_take hcursor haction).cursorInLine hcursor

/-- The cursor stays in the line when a session digests a unit of input. -/
theorem cursorInLine_digest {e : Editor} {token : Token} (hcursor : e.buffer.CursorInLine) :
    (e.digest token).1.buffer.CursorInLine := by
  have htake : (e.forgetAccepted.take token).buffer.CursorInLine :=
    cursorInLine_take (e := e.forgetAccepted) hcursor
  cases haccepted : (e.forgetAccepted.take token).accepted with
  | none =>
    rw [digest_of_accepted_eq_none haccepted]
    exact htake
  | some line =>
    rw [digest_of_accepted_eq_some haccepted]
    exact htake

theorem cursorInLine_digestAll {e : Editor} (hcursor : e.buffer.CursorInLine)
    (tokens : List Token) : (e.digestAll tokens).1.buffer.CursorInLine := by
  induction tokens generalizing e with
  | nil => exact hcursor
  | cons token rest ih => exact ih (cursorInLine_digest hcursor)

end Editor

end LineEditor

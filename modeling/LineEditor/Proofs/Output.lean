import LineEditor.Proofs.Run

/-!
# Output that waits

Edits write to the terminal by leaving output that waits, and it is taken from there at some time.
Nothing that an editor does depends on what waits to be written, or on when it is taken: an editor
from which more is waiting does the same, and what it writes comes behind that.

## Main definitions

* `Console.after`, `Editor.after` and `Engine.after` put output in front of what waits.

## Main results

* `Editor.take_after` — a unit of input.
* `Engine.run_takeOutput` — a run, whenever the output before it is taken.
-/

namespace LineEditor

namespace Console

/-- Puts output in front of what waits. The pieces stand with the newest first. -/
def after (c : Console) (earlier : List Text) : Console :=
  { c with outbox := c.outbox ++ earlier }

variable {c : Console} {earlier : List Text}

theorem output_after (c : Console) (earlier : List Text) :
    (c.after earlier).output = earlier.reverse.flatten ++ c.output := by
  rw [output, after, List.reverse_append, List.flatten_append]
  rfl

@[simp]
theorem buffer_after (c : Console) (earlier : List Text) : (c.after earlier).buffer = c.buffer :=
  rfl

/-- An edit does not look at what waits. -/
def Unheeding {α : Type} (edit : Console → Console × α) : Prop :=
  ∀ c earlier, edit (c.after earlier) = ((edit c).1.after earlier, (edit c).2)

theorem insert_after (c : Console) (earlier : List Text) (t : Text) :
    (c.after earlier).insert t = (c.insert t).after earlier := by
  rw [insert, insert]
  split
  · rfl
  · rfl

theorem insertDiscrete_after (c : Console) (earlier : List Text) (t : Text) :
    (c.after earlier).insertDiscrete t = (c.insertDiscrete t).after earlier := by
  rw [insertDiscrete, insertDiscrete]
  split
  · rfl
  · rfl

theorem replaceLine_after (c : Console) (earlier : List Text) (t : Text) :
    (c.after earlier).replaceLine t = (c.replaceLine t).after earlier := by
  rw [replaceLine, replaceLine, buffer_after]
  split
  · rfl
  · rfl

/-- Leaving everything as it is. -/
theorem unheeding_kept {α : Type} (a : α) : Unheeding fun c => (c, a) := fun _ _ => rfl

theorem unheeding_remove (edit : Buffer → Buffer × Text) : Unheeding (·.remove edit) :=
  fun _ _ => rfl

/-- A choice that is made by the buffer. -/
theorem Unheeding.ite {α : Type} {f g : Console → Console × α} (p : Buffer → Prop)
    [DecidablePred p] (hf : Unheeding f) (hg : Unheeding g) :
    Unheeding fun c => if p c.buffer then f c else g c := by
  intro c earlier
  by_cases h : p c.buffer
  · have hafter : p (c.after earlier).buffer := h
    simp only [if_pos h, if_pos hafter]
    exact hf c earlier
  · have hafter : ¬p (c.after earlier).buffer := h
    simp only [if_neg h, if_neg hafter]
    exact hg c earlier

theorem unheeding_deleteForward (n : Nat) : Unheeding (·.deleteForward n) :=
  .ite (fun b => b.line.length ≤ b.cursor) (unheeding_kept 0) (unheeding_remove _)

theorem unheeding_deletePrevious (n : Nat) : Unheeding (·.deletePrevious n) :=
  .ite (fun b => b.cursor = 0) (unheeding_kept 0) (unheeding_remove _)

theorem unheeding_deleteRange (start stop : Nat) : Unheeding (·.deleteRange start stop) :=
  .ite (fun b => stop ≤ start ∨ b.line.length ≤ start) (unheeding_kept 0) (unheeding_remove _)

theorem unheeding_replaceChar (ch : Char) (pos : Nat) : Unheeding (·.replaceChar ch pos) :=
  .ite (fun b => b.line.length ≤ pos) (unheeding_kept false) fun _ _ => rfl

theorem unheeding_killToEnd : Unheeding killToEnd := by
  intro c earlier
  exact unheeding_deleteRange c.buffer.cursor c.buffer.line.length c earlier

theorem unheeding_killToStart : Unheeding killToStart := by
  intro c earlier
  exact unheeding_deleteRange 0 c.buffer.cursor c earlier

theorem unheeding_deleteUnseen : Unheeding deleteUnseen := by
  intro c earlier
  have hline : (c.after earlier).deleteLine = ((c.deleteLine).1.after earlier, c.deleteLine.2) :=
    unheeding_deleteRange 0 c.buffer.line.length c earlier
  rw [deleteUnseen, deleteUnseen, hline]
  rfl

theorem unheeding_yank : Unheeding yank := by
  intro c earlier
  have hkills : (c.after earlier).kills = c.kills := rfl
  rw [yank, yank, hkills]
  cases c.kills.newest? with
  | none => rfl
  | some t =>
    dsimp only
    rw [insertDiscrete_after]

end Console

namespace Editor

variable {e : Editor} {earlier : List Text}

/-- Puts output in front of what waits. -/
def after (e : Editor) (earlier : List Text) : Editor :=
  e.onConsole (·.after earlier)

/-- Puts output in front of what waits after an action. -/
def Outcome.after (o : Outcome) (earlier : List Text) : Outcome :=
  (o.1.after earlier, o.2)

/-- A change of the editor does not look at what waits. -/
def Unheeding (act : Editor → Outcome) : Prop :=
  ∀ e earlier, act (e.after earlier) = Outcome.after (act e) earlier

/-- A choice between changes. -/
theorem Unheeding.ite {f g : Editor → Outcome} (p : Editor → Prop) [DecidablePred p]
    (hp : ∀ e earlier, p (e.after earlier) ↔ p e) (hf : Unheeding f) (hg : Unheeding g) :
    Unheeding fun e => if p e then f e else g e := by
  intro e earlier
  by_cases h : p e
  · have hafter : p (e.after earlier) := (hp e earlier).mpr h
    simp only [if_pos h, if_pos hafter]
    exact hf e earlier
  · have hafter : ¬p (e.after earlier) := fun hafter => h ((hp e earlier).mp hafter)
    simp only [if_neg h, if_neg hafter]
    exact hg e earlier

/-- Applying an edit of the console, when the outcome is told by what the edit tells. -/
theorem unheeding_edit {α : Type} {edit : Console → Console × α} (h : Console.Unheeding edit)
    (redraw : α → Bool) :
    Unheeding fun e => ({ e with console := (edit e.console).1 }, redraw (edit e.console).2) := by
  intro e earlier
  have hedit : edit (e.after earlier).console = _ := h e.console earlier
  dsimp only
  rw [hedit]
  rfl

theorem unheeding_removing {edit : Console → Console × Nat} (h : Console.Unheeding edit) :
    Unheeding (·.removing edit) :=
  unheeding_edit h fun n => n > 0

theorem unheeding_removeUnseen : Unheeding removeUnseen :=
  unheeding_edit Console.unheeding_deleteUnseen fun _ => false

theorem restOnCharacter_after (e : Editor) (earlier : List Text) :
    (e.after earlier).restOnCharacter = e.restOnCharacter.after earlier := by
  have hlayer : (e.after earlier).layer = e.layer := rfl
  have hbuffer : (e.after earlier).buffer = e.buffer := rfl
  rw [restOnCharacter, restOnCharacter, hlayer, hbuffer]
  cases e.layer with
  | insert => rfl
  | command =>
    dsimp only
    split
    · rfl
    · rfl

theorem unheeding_deleteChar : Unheeding deleteChar := by
  refine .ite (fun e => e.isUnseen = true) (fun _ _ => Iff.rfl) unheeding_removeUnseen ?_
  intro e earlier
  have hremoving : (e.after earlier).removing (·.deleteForward 1) =
      Outcome.after (e.removing (·.deleteForward 1)) earlier :=
    unheeding_removing (Console.unheeding_deleteForward 1) e earlier
  dsimp only
  rw [hremoving]
  obtain ⟨f, changed⟩ := e.removing (·.deleteForward 1)
  cases changed with
  | false => rfl
  | true => exact congrArg (·, true) (restOnCharacter_after f earlier)

theorem unheeding_backwardDeleteChar : Unheeding backwardDeleteChar :=
  .ite (fun e => e.isUnseen = true) (fun _ _ => Iff.rfl) unheeding_removeUnseen
    (unheeding_removing (Console.unheeding_deletePrevious 1))

theorem unheeding_changeCase : Unheeding changeCase := by
  intro e earlier
  have hbuffer : (e.after earlier).buffer = e.buffer := rfl
  rw [changeCase, changeCase, hbuffer]
  cases e.buffer.line[e.buffer.cursor]? with
  | none => rfl
  | some c =>
    have hreplace := congrArg Prod.fst
      (Console.unheeding_replaceChar (Unicode.toggleCase c) e.buffer.cursor e.console earlier)
    exact congrArg (fun k => (({ e with console := k } : Editor).onBuffer (·.moveCursor 1), true))
      hreplace

theorem unheeding_yank : Unheeding yank :=
  unheeding_edit Console.unheeding_yank id

theorem unheeding_undo : Unheeding undo := fun _ _ => rfl

theorem unheeding_enterCommandLayer : Unheeding enterCommandLayer := by
  intro e earlier
  have hlayer : (e.after earlier).layer = e.layer := rfl
  rw [enterCommandLayer, enterCommandLayer, hlayer]
  cases e.layer with
  | command | insert => rfl

theorem offer_after (e : Editor) (earlier : List Text) (r : CompletionRequest) :
    (e.after earlier).offer r = (e.offer r).after earlier := by
  have hinsert (t : Text) : (e.after earlier).onConsole (·.insertDiscrete t) =
      (e.onConsole (·.insertDiscrete t)).after earlier :=
    congrArg (fun k => { e with console := k }) (e.console.insertDiscrete_after earlier t)
  rw [offer, offer]
  split
  · exact hinsert _
  · dsimp only
    generalize (if r.ignoreStartsWith then [] else Text.commonStart r.formattedCandidates) = common
    split
    · rfl
    · exact hinsert _

theorem unheeding_complete : Unheeding complete := by
  intro e earlier
  have hanswer : Completer.firstAnswer? (e.after earlier).completers (e.after earlier).buffer.line
      (e.after earlier).buffer.cursor =
        Completer.firstAnswer? e.completers e.buffer.line e.buffer.cursor := rfl
  rw [complete, complete, hanswer]
  cases Completer.firstAnswer? e.completers e.buffer.line e.buffer.cursor with
  | none => rfl
  | some r => exact congrArg (·, true) (offer_after e earlier r)

theorem unheeding_putRecalled (step : History × Option Text) : Unheeding (·.putRecalled step) := by
  intro e earlier
  obtain ⟨history, recalled⟩ := step
  cases recalled with
  | none => rfl
  | some t =>
    exact congrArg (fun k => (({ e with history, console := k } : Editor), true))
      (e.console.replaceLine_after earlier t)

theorem unheeding_previousEntry : Unheeding previousEntry := by
  intro e earlier
  have hhistory : (e.after earlier).history = e.history := rfl
  rw [previousEntry, previousEntry, hhistory]
  split
  · rfl
  · exact unheeding_putRecalled _ e earlier

theorem unheeding_nextEntry : Unheeding nextEntry := by
  intro e earlier
  have hhistory : (e.after earlier).history = e.history := rfl
  rw [nextEntry, nextEntry, hhistory]
  split
  · rfl
  · exact unheeding_putRecalled _ e earlier

theorem unheeding_searchHistory (direction : SearchDirection) :
    Unheeding (·.searchHistory direction) := by
  intro e earlier
  have hhistory : (e.after earlier).history = e.history := rfl
  have hterm : (e.after earlier).searchTerm.getD (e.after earlier).buffer.line =
      e.searchTerm.getD e.buffer.line := rfl
  dsimp only
  rw [searchHistory, searchHistory, hhistory, hterm]
  split
  · rfl
  · dsimp only
    split
    · rfl
    · exact unheeding_putRecalled ({ e.history with direction }.search _)
        { e with searchTerm := some (e.searchTerm.getD e.buffer.line) } earlier

theorem finish_after (e : Editor) (earlier : List Text) (entry : Text) :
    (e.after earlier).finish entry = (e.finish entry).after earlier := by
  have hbuffer : (e.after earlier).buffer = e.buffer := rfl
  rw [finish, finish, hbuffer]
  split
  · rfl
  · rfl

theorem record_after (e : Editor) (earlier : List Text) (entry : Text) :
    (e.after earlier).record entry = (e.record entry).after earlier := by
  have hhistory : (e.after earlier).history = e.history := rfl
  rw [record, record, hhistory]
  split
  · rfl
  · rfl

theorem unheeding_acceptLine : Unheeding acceptLine := by
  intro e earlier
  have hending : lineEnding ((e.after earlier).onConsole (·.clearUndo)).buffer
      ((e.after earlier).onConsole (·.clearUndo)).continuation =
        lineEnding (e.onConsole (·.clearUndo)).buffer (e.onConsole (·.clearUndo)).continuation :=
    rfl
  rw [acceptLine, acceptLine, hending]
  cases lineEnding (e.onConsole (·.clearUndo)).buffer (e.onConsole (·.clearUndo)).continuation with
  | masked => exact congrArg (·, false) (finish_after (e.onConsole (·.clearUndo)) earlier _)
  | comment | escaped | openQuote => rfl
  | complete =>
    have hrecord := record_after (e.onConsole (·.clearUndo)) earlier e.buffer.entry
    refine congrArg (·, false) ?_
    change ((Editor.after (e.onConsole (·.clearUndo)) earlier).record e.buffer.entry).finish
      e.buffer.entry = _
    rw [hrecord]
    exact finish_after _ earlier _

theorem unheeding_apply (action : Action) : Unheeding (·.apply action) := by
  cases action with
  | acceptLine => exact unheeding_acceptLine
  | deleteChar => exact unheeding_deleteChar
  | backwardDeleteChar => exact unheeding_backwardDeleteChar
  | changeCaseChar => exact unheeding_changeCase
  | killLine => exact unheeding_removing Console.unheeding_killToEnd
  | unixLineDiscard => exact unheeding_removing Console.unheeding_killToStart
  | backwardKillWord =>
    intro e earlier
    exact unheeding_removing (Console.unheeding_deleteRange _ _) e earlier
  | yank => exact unheeding_yank
  | forwardChar | backwardChar | forwardWord | backwardWord | beginningOfLine | endOfLine =>
    intro e earlier
    rfl
  | previousHistory => exact unheeding_previousEntry
  | nextHistory => exact unheeding_nextEntry
  | reverseSearchHistory => exact unheeding_searchHistory .reverse
  | forwardSearchHistory => exact unheeding_searchHistory .forward
  | complete => exact unheeding_complete
  | undo => exact unheeding_undo
  | viMovementMode => exact unheeding_enterCommandLayer
  | viInsertMode | viAppendMode | viInsertBeginningOfLine | viAppendEndOfLine =>
    intro e earlier
    rfl

theorem settle_after (o : Outcome) (earlier : List Text) :
    settle (Outcome.after o earlier) = (settle o).after earlier := by
  obtain ⟨e, redraw⟩ := o
  cases redraw with
  | true | false => rfl

theorem unheeding_perform (action : Action) : Unheeding (·.perform action) := by
  intro e earlier
  have happly : ((e.after earlier).prepare action).apply action =
      Outcome.after ((e.prepare action).apply action) earlier :=
    unheeding_apply action (e.prepare action) earlier
  dsimp only
  rw [perform, perform, happly]
  exact congrArg (·, _) (settle_after _ earlier)

theorem press_after (e : Editor) (earlier : List Text) (key : Key) :
    (e.after earlier).press key = (e.press key).after earlier := by
  have hlookup : (e.after earlier).keymap.lookup (e.after earlier).layer key =
      e.keymap.lookup e.layer key := rfl
  have hlayer : (e.after earlier).layer = e.layer := rfl
  rw [press, press, hlookup, hlayer]
  cases e.keymap.lookup e.layer key with
  | some name =>
    dsimp only
    rw [performNamed, performNamed]
    cases Action.ofName? name with
    | none => rfl
    | some action => exact congrArg Prod.fst (unheeding_perform action e earlier)
  | none =>
    dsimp only
    split
    · next c _ _ =>
      exact congrArg (fun k => ({ e with searchTerm := none, console := k.draw } : Editor))
        (e.console.insert_after earlier [c])
    · rfl

/-- What a unit of input does, does not depend on what waits to be written. -/
theorem take_after (e : Editor) (earlier : List Text) (token : Token) :
    (e.after earlier).take token = (e.take token).after earlier := by
  cases token with
  | key key => exact press_after e earlier key
  | paste t =>
    have hlayer : (e.after earlier).layer = e.layer := rfl
    rw [take, take, insertPaste, insertPaste, hlayer]
    split
    · rfl
    · split
      · rfl
      · exact congrArg (fun k => ({ e with searchTerm := none, console := k.draw } : Editor))
          (e.console.insertDiscrete_after earlier (flattenPaste t))

end Editor

namespace Engine

/-- Puts output in front of what waits. -/
def after (e : Engine) (earlier : List Text) : Engine :=
  e.onEditor (·.after earlier)

/-- The output that waits. -/
def output (e : Engine) : Text :=
  e.editor.console.output

theorem consume_after (e : Editor) (earlier : List Text) (tokens : List Token) :
    consume (e.after earlier) tokens =
      ((consume e tokens).1.after earlier, (consume e tokens).2) := by
  induction tokens generalizing e with
  | nil => rfl
  | cons token rest ih =>
    have haccepted : ((e.take token).after earlier).accepted = (e.take token).accepted := rfl
    rw [consume, consume, Editor.take_after, haccepted]
    split
    · rfl
    · exact ih (e.take token)

theorem run_after (e : Engine) (earlier : List Text) :
    (e.after earlier).run = (e.run.1.after earlier, e.run.2) := by
  have hconsume : consume (e.after earlier).editor.forgetAccepted (e.after earlier).queue = _ :=
    consume_after e.editor.forgetAccepted earlier e.queue
  rw [run, run, hconsume]
  rcases consume e.editor.forgetAccepted e.queue with ⟨f, rest⟩
  have htake : (f.after earlier).takeAccepted =
    (f.takeAccepted.1.after earlier, f.takeAccepted.2) := rfl
  dsimp only
  rw [htake]
  rcases f.takeAccepted with ⟨g, _ | line⟩
  · rfl
  · rfl

/-- Taking the output before something is done and the engine is run changes nothing but when it is
written. -/
theorem run_takeOutput {f : Engine → Engine}
    (hf : ∀ e earlier, f (e.after earlier) = (f e).after earlier) (e : Engine) :
    (f e).run.2 = (f e.takeOutput.1).run.2 ∧
      (f e).run.1.takeOutput.1 = (f e.takeOutput.1).run.1.takeOutput.1 ∧
      (f e).run.1.output = e.output ++ (f e.takeOutput.1).run.1.output := by
  have hrun : (f e).run = ((f e.takeOutput.1).run.1.after e.editor.console.outbox,
      (f e.takeOutput.1).run.2) := by
    rw [← run_after, ← hf]
    rfl
  rw [hrun]
  refine ⟨rfl, rfl, ?_⟩
  exact Console.output_after _ _

end Engine

end LineEditor

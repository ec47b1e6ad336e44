import LineEditor.Proofs.Access.Completion
import LineEditor.Proofs.Access.Console
import LineEditor.Proofs.Access.Grid
import LineEditor.Proofs.Access.History

/-!
# The editor with checked accesses

What a unit of input does, with every access checked: a key is looked up and its action performed, a
character is typed, a paste inserted, and the line drawn. There is one case for each action. It
comes to what the action does, and leaves the cursors, the sizes and the positions in range for the
next one. The completers are vocabularies. The keymap and the prompt may be any, and so may the
words of the vocabularies and the entries of the history.

## Main definitions

* `Editor.InRange` — the console and the history are in range, and the completers are vocabularies.
* `Editor.act?`, `Editor.perform?` and `Editor.take?` are what an action, and what a unit of input
  does, with checked accesses.

## Main results

* `Editor.gives_apply` — every action, and `Editor.gives_take` — every unit of input.
-/

namespace LineEditor

open Access

namespace Editor

/-- The console and the history are in range, and the completers are vocabularies. -/
structure InRange (vocabularies : List (List Text)) (e : Editor) : Prop where
  console : e.console.InRange
  history : e.history.InPlace
  completers : e.completers = vocabularies.map Completer.wordList

/-- What an action leaves is in range. -/
def Leaves (vocabularies : List (List Text)) (outcome : Outcome) : Prop :=
  outcome.1.InRange vocabularies

/-! ### Removing and changing -/

/-- Applies an edit that counts what it removes. -/
def removing? (e : Editor) (edit : Console → Option (Console × Nat)) : Option Outcome := do
  let removed ← edit e.console
  pure ({ e with console := removed.1 }, removed.2 > 0)

/-- Draws the line. -/
def draw? (e : Editor) : Option Editor := do
  let console ← e.console.draw?
  pure { e with console }

/-- Removes the whole line where nothing is shown of it. -/
def removeUnseen? (e : Editor) : Option Outcome := do
  let removed ← e.console.deleteUnseen?
  pure ({ e with console := removed.1 }, false)

/-- Removes the character at the cursor. -/
def deleteChar? (e : Editor) : Option Outcome :=
  if e.isUnseen then e.removeUnseen?
  else do
    let after ← e.removing? (·.deleteForward? 1)
    pure (if after.2 then after.1.restOnCharacter else after.1, after.2)

/-- Removes the character before the cursor. -/
def backwardDeleteChar? (e : Editor) : Option Outcome :=
  if e.isUnseen then e.removeUnseen? else e.removing? (·.deletePrevious? 1)

/-- Changes the case of the character at the cursor, if there is one. -/
def changeCase? (e : Editor) : Option Outcome :=
  match e.buffer.line[e.buffer.cursor]? with
  | none => pure (e, false)
  | some c => do
    let replaced ← e.console.replaceChar? (Unicode.toggleCase c) e.buffer.cursor
    pure (({ e with console := replaced.1 } : Editor).onBuffer (·.moveCursor 1), true)

/-- Removes everything from the cursor on. -/
def killLine? (e : Editor) : Option Outcome :=
  e.removing? (·.killToEnd?)

/-- Removes everything before the cursor. -/
def discardLine? (e : Editor) : Option Outcome :=
  e.removing? (·.killToStart?)

/-- Removes the word before the cursor. -/
def killWordBefore? (e : Editor) : Option Outcome := do
  let start ← wordStart? e.buffer.line (· ≠ ' ') e.buffer.cursor
  e.removing? (·.deleteRange? start e.buffer.cursor)

/-- Inserts what was removed last. -/
def yank? (e : Editor) : Option Outcome := do
  let yanked ← e.console.yank?
  pure ({ e with console := yanked.1 }, yanked.2)

/-! ### Moving -/

/-- Moves behind the next word. -/
def forwardWord? (e : Editor) : Option Outcome := do
  let place ← wordEnd? e.buffer.line Unicode.isLetterOrNumber e.buffer.cursor
  pure (e.moveTo place)

/-- Moves to the start of the word before the cursor. -/
def backwardWord? (e : Editor) : Option Outcome := do
  let place ← wordStart? e.buffer.line Unicode.isLetterOrNumber e.buffer.cursor
  pure (e.moveTo place)

/-! ### Accepting -/

/-- What Enter makes of the line. -/
def lineEnding? (b : Buffer) (continuation : QuoteContinuation) : Option LineEnding :=
  if b.isMasked then pure .masked
  else do
    let trimmed ← trim? b.line
    pure
      (if trimmed.head? = some '#' then .comment
      else if trimmed.endsInEscape then .escaped
      else if b.entry.endsInQuote continuation.kinds then .openQuote
      else .complete)

/-- Goes behind the line. -/
def goBehind? (e : Editor) : Option Editor :=
  if e.buffer.cursor = e.buffer.line.length then pure e
  else (e.onBuffer (·.setCursor e.buffer.line.length)).draw?

/-- Hands the entry over and starts an empty line. -/
def finish? (e : Editor) (entry : Text) : Option Editor := do
  let atEnd ← e.goBehind?
  pure ({ atEnd with accepted := e.accepted.or (some entry) }.onConsole fun c =>
    (c.write lineBreak).reset)

/-- What Enter does. -/
def acceptLine? (e : Editor) : Option Outcome := do
  let e := e.onConsole (·.clearUndo)
  let ending ← lineEnding? e.buffer e.continuation
  match ending with
  | .masked => do
    let finished ← e.finish? e.buffer.entry
    pure (finished, false)
  | .comment => pure (e.discardComment, true)
  | .escaped => pure ((e.onBuffer fun b => b.replace b.line.trimEnd).continueEntry, true)
  | .openQuote => pure (e.continueEntry, true)
  | .complete => do
    let finished ← (e.record e.buffer.entry).finish? e.buffer.entry
    pure (finished, false)

/-! ### Recalling -/

/-- Puts a recalled text in place of the line, if there is one. -/
def putRecalled? (e : Editor) (step : History × Option Text) : Option Outcome :=
  match step.2 with
  | none => pure ({ e with history := step.1 }, false)
  | some t => do
    let console ← e.console.replaceLine? t
    pure ({ e with history := step.1, console }, true)

/-- Steps to the next older entry. -/
def stepOlder? (e : Editor) : Option Outcome :=
  if !e.history.enabled then pure (e, false)
  else do
    let history :=
      if e.history.isNavigating then e.history else e.history.setDraft e.buffer.line
    let step ← history.previous?
    e.putRecalled? step

/-- Steps to the next newer entry. -/
def stepNewer? (e : Editor) : Option Outcome :=
  if !e.history.enabled || !e.history.isNavigating then pure (e, false)
  else e.putRecalled? e.history.next

/-- Searches the history. -/
def searchHistory? (direction : SearchDirection) (e : Editor) : Option Outcome :=
  if !e.history.enabled then pure (e, false)
  else
    let term := e.searchTerm.getD e.buffer.line
    if term.isEmpty then pure ({ e with searchTerm := none }, false)
    else do
      let step ← { e.history with direction }.search? term
      { e with searchTerm := some term }.putRecalled? step

/-! ### Completing -/

/-- Writes a list of candidates below the line. -/
def listCandidates? (e : Editor) (candidates : List Text) : Option Editor := do
  let grid ← Screen.compactGrid? candidates e.width
  pure (e.onConsole fun c =>
    (c.write lineBreak).write ((Text.lines grid).flatMap (· ++ lineBreak)))

/-- Inserts a text as one edit. -/
def insertDiscrete? (e : Editor) (t : Text) : Option Editor := do
  let console ← e.console.insertDiscrete? t
  pure { e with console }

/-- Inserts or lists what a completer found. -/
def offer? (e : Editor) (r : CompletionRequest) : Option Editor := do
  let formatted ← r.formattedCandidates?
  match formatted with
  | [only] =>
    let separator := if r.appendSeparator then [r.separator] else []
    e.insertDiscrete? (insertedForm r only ++ separator)
  | several =>
    let common := if r.ignoreStartsWith then [] else Text.commonStart several
    if common.isEmpty then e.listCandidates? r.candidates
    else e.insertDiscrete? (insertedForm r common)

/-- Completes the word at the cursor. -/
def complete? (vocabularies : List (List Text)) (e : Editor) : Option Outcome := do
  let answer ← Completer.firstListed? e.buffer.line e.buffer.cursor vocabularies
  match answer with
  | none => pure (e, false)
  | some r => do
    let offered ← e.offer? r
    pure (offered, true)

/-! ### Keys -/

/-- What an action does. Where an action makes no access, it is the action itself. -/
def act? (vocabularies : List (List Text)) (e : Editor) : Action → Option Outcome
  | .acceptLine => e.acceptLine?
  | .deleteChar => e.deleteChar?
  | .backwardDeleteChar => e.backwardDeleteChar?
  | .changeCaseChar => e.changeCase?
  | .killLine => e.killLine?
  | .unixLineDiscard => e.discardLine?
  | .backwardKillWord => e.killWordBefore?
  | .yank => e.yank?
  | .forwardChar => pure e.forwardChar
  | .backwardChar => pure e.backwardChar
  | .forwardWord => e.forwardWord?
  | .backwardWord => e.backwardWord?
  | .beginningOfLine => pure e.beginningOfLine
  | .endOfLine => pure e.endOfLine
  | .previousHistory => e.stepOlder?
  | .nextHistory => e.stepNewer?
  | .reverseSearchHistory => e.searchHistory? .reverse
  | .forwardSearchHistory => e.searchHistory? .forward
  | .complete => e.complete? vocabularies
  | .undo => pure e.undo
  | .viMovementMode => pure e.enterCommandLayer
  | .viInsertMode => pure e.enterInsertLayer
  | .viAppendMode => pure e.appendAfterCursor
  | .viInsertBeginningOfLine => pure e.insertAtStart
  | .viAppendEndOfLine => pure e.appendAtEnd

/-- Draws the line if the outcome asks for it. -/
def settle? (outcome : Outcome) : Option Editor :=
  if outcome.2 then outcome.1.draw? else pure outcome.1

/-- Performs an action. -/
def perform? (vocabularies : List (List Text)) (e : Editor) (action : Action) :
    Option Outcome := do
  let outcome ← (e.prepare action).act? vocabularies action
  let settled ← settle? outcome
  pure (settled, outcome.2)

/-- Performs the action with a name. -/
def performNamed? (vocabularies : List (List Text)) (e : Editor) (name : String) :
    Option Outcome :=
  match Action.ofName? name with
  | some action => e.perform? vocabularies action
  | none => pure (e, false)

/-- Types a character. -/
def typeChar? (e : Editor) (c : Char) : Option Editor := do
  let console ← e.console.insert? [c]
  { e with searchTerm := none, console }.draw?

/-- What a key does. -/
def press? (vocabularies : List (List Text)) (e : Editor) (key : Key) : Option Editor :=
  match e.keymap.lookup e.layer key with
  | some name => do
    let performed ← e.performNamed? vocabularies name
    pure performed.1
  | none =>
    match e.layer, key.printable? with
    | .insert, some c => e.typeChar? c
    | _, _ => pure e

/-- Inserts a pasted text as one edit. -/
def insertPaste? (e : Editor) (pasted : Text) : Option Editor :=
  let t := flattenPaste pasted
  match e.layer with
  | .command => pure e
  | .insert =>
    if t.isEmpty then pure e
    else do
      let inserted ← { e with searchTerm := none }.insertDiscrete? t
      inserted.draw?

/-- What a unit of input does. -/
def take? (vocabularies : List (List Text)) (e : Editor) : Token → Option Editor
  | .key k => e.press? vocabularies k
  | .paste t => e.insertPaste? t

variable {vocabularies : List (List Text)} {e : Editor}

namespace InRange

/-- A change of the console that leaves it in range. -/
theorem withConsole {c : Console} (h : e.InRange vocabularies) (hc : c.InRange) :
    ({ e with console := c } : Editor).InRange vocabularies :=
  ⟨hc, h.history, h.completers⟩

theorem onConsole {f : Console → Console} (h : e.InRange vocabularies)
    (hf : (f e.console).InRange) : (e.onConsole f).InRange vocabularies :=
  h.withConsole hf

theorem onBuffer {f : Buffer → Buffer} (h : e.InRange vocabularies)
    (hf : (f e.buffer).CursorInLine) : (e.onBuffer f).InRange vocabularies :=
  h.onConsole (h.console.onBuffer hf)

theorem moveTo (h : e.InRange vocabularies) (place : Nat) :
    (e.moveTo place).1.InRange vocabularies :=
  h.onBuffer (Buffer.cursorInLine_setCursor _ _)

theorem insertAt (h : e.InRange vocabularies) (place : Nat) :
    (e.insertAt place).1.InRange vocabularies :=
  ⟨h.console.onBuffer (f := (·.setCursor place)) (Buffer.cursorInLine_setCursor _ _), h.history,
    h.completers⟩

theorem enterCommandLayer (h : e.InRange vocabularies) :
    e.enterCommandLayer.1.InRange vocabularies := by
  rw [Editor.enterCommandLayer]
  split
  · exact h
  · exact ⟨h.console.endRun.onBuffer (f := (·.moveCursor (-1))) (Buffer.cursorInLine_setCursor _ _),
      h.history, h.completers⟩

theorem restOnCharacter (h : e.InRange vocabularies) :
    e.restOnCharacter.InRange vocabularies := by
  rw [Editor.restOnCharacter]
  split
  · split
    · exact h.onBuffer (Buffer.cursorInLine_setCursor _ _)
    · exact h
  · exact h

theorem discardComment (h : e.InRange vocabularies) : e.discardComment.InRange vocabularies :=
  h.withConsole ((h.console.onBuffer (Buffer.cursorInLine_replace _ [])).write _)

theorem continueEntry (h : e.InRange vocabularies) : e.continueEntry.InRange vocabularies :=
  h.withConsole
    ((h.console.onBuffer (f := fun b => (b.setMultiLine true).fold) (Nat.le_refl 0)).write _)

theorem record (h : e.InRange vocabularies) (entry : Text) :
    (e.record entry).InRange vocabularies := by
  rw [Editor.record]
  split
  · exact ⟨h.console, History.inPlace_resetPositions _, h.completers⟩
  · exact h

theorem prepare (h : e.InRange vocabularies) (action : Action) :
    (e.prepare action).InRange vocabularies :=
  ⟨h.console.endRun, h.history, h.completers⟩

theorem forgetAccepted (h : e.InRange vocabularies) : e.forgetAccepted.InRange vocabularies :=
  ⟨h.console, h.history, h.completers⟩

end InRange

/-- What an action leaves, when it makes no access. -/
theorem gives_pure {outcome : Outcome} (h : outcome.1.InRange vocabularies) :
    Gives (pure outcome) outcome (Leaves vocabularies) :=
  .pure h

theorem gives_draw (h : e.InRange vocabularies) :
    Gives e.draw? (e.onConsole (·.draw)) (InRange vocabularies) := by
  apply (Console.gives_draw h.console).bind
  intro hdrawn
  exact .pure (h.withConsole hdrawn)

theorem gives_insertDiscrete (h : e.InRange vocabularies) (t : Text) :
    Gives (e.insertDiscrete? t) (e.onConsole (·.insertDiscrete t)) (InRange vocabularies) := by
  apply (Console.gives_insertDiscrete h.console t).bind
  intro hinserted
  exact .pure (h.withConsole hinserted)

/-! ### Removing and changing -/

theorem gives_removing {edit? : Console → Option (Console × Nat)} {edit : Console → Console × Nat}
    (h : e.InRange vocabularies)
    (hedit : Gives (edit? e.console) (edit e.console) (·.1.InRange)) :
    Gives (e.removing? edit?) (e.removing edit) (Leaves vocabularies) := by
  apply hedit.bind
  intro hremoved
  apply Gives.pure
  exact h.withConsole hremoved

theorem gives_removeUnseen (h : e.InRange vocabularies) :
    Gives e.removeUnseen? e.removeUnseen (Leaves vocabularies) := by
  apply (Console.gives_deleteUnseen h.console).bind
  intro hremoved
  exact gives_pure (h.withConsole hremoved)

theorem gives_deleteChar (h : e.InRange vocabularies) :
    Gives e.deleteChar? e.deleteChar (Leaves vocabularies) := by
  rw [deleteChar?, deleteChar]
  split
  · exact gives_removeUnseen h
  · have hremoving : Gives (e.removing? (·.deleteForward? 1)) (e.removing (·.deleteForward 1))
        (Leaves vocabularies) := gives_removing h (Console.gives_deleteForward h.console 1)
    apply hremoving.bind
    intro hremoved
    apply gives_pure
    dsimp only
    split
    · exact InRange.restOnCharacter hremoved
    · exact hremoved

theorem gives_backwardDeleteChar (h : e.InRange vocabularies) :
    Gives e.backwardDeleteChar? e.backwardDeleteChar (Leaves vocabularies) := by
  rw [backwardDeleteChar?, backwardDeleteChar]
  split
  · exact gives_removeUnseen h
  · exact gives_removing h (Console.gives_deletePrevious h.console 1)

theorem gives_changeCase (h : e.InRange vocabularies) :
    Gives e.changeCase? e.changeCase (Leaves vocabularies) := by
  rw [changeCase?, changeCase]
  cases e.buffer.line[e.buffer.cursor]? with
  | none => exact gives_pure h
  | some c =>
    apply (Console.gives_replaceChar h.console (Unicode.toggleCase c) e.buffer.cursor).bind
    intro hreplaced
    apply gives_pure
    exact (h.withConsole hreplaced).onBuffer (Buffer.cursorInLine_setCursor _ _)

theorem gives_killLine (h : e.InRange vocabularies) :
    Gives e.killLine? e.killLine (Leaves vocabularies) := by
  rw [killLine?, killLine]
  apply gives_removing h
  exact Console.gives_deleteRange h.console _ _

theorem gives_discardLine (h : e.InRange vocabularies) :
    Gives e.discardLine? e.discardLine (Leaves vocabularies) := by
  rw [discardLine?, discardLine]
  apply gives_removing h
  exact Console.gives_deleteRange h.console _ _

/-- The word before the cursor is looked for in the line. -/
theorem gives_killWordBefore (h : e.InRange vocabularies) :
    Gives e.killWordBefore? e.killWordBefore (Leaves vocabularies) := by
  rw [killWordBefore?, killWordBefore]
  apply (gives_of_eq (wordStart?_eq (· ≠ ' ') h.console.cursor)).bind
  intro _
  apply gives_removing h
  exact Console.gives_deleteRange h.console _ _

theorem gives_yank (h : e.InRange vocabularies) :
    Gives e.yank? e.yank (Leaves vocabularies) := by
  apply (Console.gives_yank h.console).bind
  intro hyanked
  apply gives_pure
  exact h.withConsole hyanked

/-! ### Moving -/

theorem gives_forwardWord (h : e.InRange vocabularies) :
    Gives e.forwardWord? e.forwardWord (Leaves vocabularies) := by
  apply (gives_of_eq (wordEnd?_eq Unicode.isLetterOrNumber h.console.cursor)).bind
  intro _
  exact gives_pure (h.moveTo _)

theorem gives_backwardWord (h : e.InRange vocabularies) :
    Gives e.backwardWord? e.backwardWord (Leaves vocabularies) := by
  apply (gives_of_eq (wordStart?_eq Unicode.isLetterOrNumber h.console.cursor)).bind
  intro _
  exact gives_pure (h.moveTo _)

/-! ### Accepting -/

theorem lineEnding?_eq (b : Buffer) (continuation : QuoteContinuation) :
    lineEnding? b continuation = some (lineEnding b continuation) := by
  rw [lineEnding?, lineEnding, trim?_eq]
  split
  · rfl
  · rfl

theorem gives_goBehind (h : e.InRange vocabularies) :
    Gives e.goBehind?
      (if e.buffer.cursor = e.buffer.line.length then e
      else (e.onBuffer (·.setCursor e.buffer.line.length)).onConsole (·.draw))
      (InRange vocabularies) := by
  rw [goBehind?]
  split
  · exact .pure h
  · exact gives_draw (h.onBuffer (Buffer.cursorInLine_setCursor _ _))

theorem gives_finish (h : e.InRange vocabularies) (entry : Text) :
    Gives (e.finish? entry) (e.finish entry) (InRange vocabularies) := by
  apply (gives_goBehind h).bind
  intro hbehind
  exact .pure ⟨(hbehind.console.write _).reset, hbehind.history, hbehind.completers⟩

theorem gives_acceptLine (h : e.InRange vocabularies) :
    Gives e.acceptLine? e.acceptLine (Leaves vocabularies) := by
  have hclear := h.onConsole (f := (·.clearUndo)) h.console.clearUndo
  rw [acceptLine?, acceptLine]
  -- from here on, only the editor without snapshots matters
  generalize e.onConsole (·.clearUndo) = e at hclear
  apply (gives_of_eq (lineEnding?_eq e.buffer e.continuation)).bind
  intro _
  cases lineEnding e.buffer e.continuation with
  | masked =>
    apply (gives_finish hclear e.buffer.entry).bind
    intro hfinished
    exact gives_pure hfinished
  | comment => exact gives_pure hclear.discardComment
  | escaped =>
    exact gives_pure (hclear.onBuffer (Buffer.cursorInLine_replace _ _)).continueEntry
  | openQuote => exact gives_pure hclear.continueEntry
  | complete =>
    apply (gives_finish (hclear.record e.buffer.entry) e.buffer.entry).bind
    intro hfinished
    exact gives_pure hfinished

/-! ### Recalling -/

theorem gives_putRecalled {step : History × Option Text} (h : e.InRange vocabularies)
    (hstep : step.1.InPlace) :
    Gives (e.putRecalled? step) (e.putRecalled step) (Leaves vocabularies) := by
  rw [putRecalled?, putRecalled]
  cases step.2 with
  | none => exact gives_pure ⟨h.console, hstep, h.completers⟩
  | some t =>
    apply (Console.gives_replaceLine h.console t).bind
    intro hreplaced
    exact gives_pure ⟨hreplaced, hstep, h.completers⟩

theorem gives_previousEntry (h : e.InRange vocabularies) :
    Gives e.stepOlder? e.previousEntry (Leaves vocabularies) := by
  rw [stepOlder?, previousEntry]
  split
  · exact gives_pure h
  · have hstart : History.InPlace (if e.history.isNavigating then e.history
        else e.history.setDraft e.buffer.line) := by
      split
      · exact h.history
      · exact ⟨h.history.fetch, h.history.gap⟩
    apply (gives_of_eq (History.previous?_eq _)).bind
    intro _
    exact gives_putRecalled h hstart.previous

theorem gives_nextEntry (h : e.InRange vocabularies) :
    Gives e.stepNewer? e.nextEntry (Leaves vocabularies) := by
  rw [stepNewer?, nextEntry]
  split
  · exact gives_pure h
  · exact gives_putRecalled h h.history.next

theorem gives_searchHistory (h : e.InRange vocabularies) (direction : SearchDirection) :
    Gives (e.searchHistory? direction) (e.searchHistory direction) (Leaves vocabularies) := by
  rw [searchHistory?, searchHistory]
  split
  · exact gives_pure h
  · dsimp only
    split
    · exact gives_pure ⟨h.console, h.history, h.completers⟩
    · have hplace : History.InPlace { e.history with direction } :=
        ⟨h.history.fetch, h.history.gap⟩
      apply (gives_of_eq (History.search?_eq _ _)).bind
      intro _
      exact gives_putRecalled ⟨h.console, h.history, h.completers⟩ (hplace.search _)

/-! ### Completing -/

theorem gives_listCandidates (h : e.InRange vocabularies) (candidates : List Text) :
    Gives (e.listCandidates? candidates) (e.listCandidates candidates)
      (InRange vocabularies) := by
  apply (gives_of_eq (Screen.compactGrid?_eq candidates e.width)).bind
  intro _
  exact .pure (h.withConsole ((h.console.write _).write _))

/-- What is inserted may be empty, and what is listed may be a single candidate. -/
theorem gives_offer (h : e.InRange vocabularies) (r : CompletionRequest) :
    Gives (e.offer? r) (e.offer r) (InRange vocabularies) := by
  rw [offer?, CompletionRequest.formattedCandidates?_eq, offer]
  generalize r.formattedCandidates = formatted
  have hseveral : ∀ common : Text, Gives
      (if common.isEmpty then e.listCandidates? r.candidates
      else e.insertDiscrete? (insertedForm r common))
      (if common.isEmpty then e.listCandidates r.candidates
      else e.onConsole (·.insertDiscrete (insertedForm r common))) (InRange vocabularies) := by
    intro common
    split
    · exact gives_listCandidates h _
    · exact gives_insertDiscrete h _
  cases formatted with
  | nil => exact hseveral _
  | cons only rest =>
    cases rest with
    | nil => exact gives_insertDiscrete h _
    | cons next rest => exact hseveral _

theorem gives_complete (h : e.InRange vocabularies) :
    Gives (e.complete? vocabularies) e.complete (Leaves vocabularies) := by
  rw [complete?, Completer.firstListed?_eq, complete, h.completers]
  cases Completer.firstAnswer? _ e.buffer.line e.buffer.cursor with
  | none => exact gives_pure h
  | some r =>
    apply (gives_offer h r).bind
    intro hoffered
    exact gives_pure hoffered

/-! ### Keys -/

/-- Every action makes its accesses in range, and leaves everything in range. -/
theorem gives_apply (h : e.InRange vocabularies) (action : Action) :
    Gives (e.act? vocabularies action) (e.apply action) (Leaves vocabularies) := by
  cases action with
  | acceptLine => exact gives_acceptLine h
  | deleteChar => exact gives_deleteChar h
  | backwardDeleteChar => exact gives_backwardDeleteChar h
  | changeCaseChar => exact gives_changeCase h
  | killLine => exact gives_killLine h
  | unixLineDiscard => exact gives_discardLine h
  | backwardKillWord => exact gives_killWordBefore h
  | yank => exact gives_yank h
  | forwardChar | backwardChar | beginningOfLine | endOfLine => exact gives_pure (h.moveTo _)
  | forwardWord => exact gives_forwardWord h
  | backwardWord => exact gives_backwardWord h
  | previousHistory => exact gives_previousEntry h
  | nextHistory => exact gives_nextEntry h
  | reverseSearchHistory => exact gives_searchHistory h .reverse
  | forwardSearchHistory => exact gives_searchHistory h .forward
  | complete => exact gives_complete h
  | undo => exact gives_pure (h.withConsole h.console.undo_fst)
  | viMovementMode => exact gives_pure h.enterCommandLayer
  | viInsertMode => exact gives_pure ⟨h.console, h.history, h.completers⟩
  | viAppendMode | viInsertBeginningOfLine | viAppendEndOfLine =>
    exact gives_pure (h.insertAt _)

theorem gives_settle {outcome : Outcome} (h : outcome.1.InRange vocabularies) :
    Gives (settle? outcome) (settle outcome) (InRange vocabularies) := by
  rw [settle?, settle]
  split
  · exact gives_draw h
  · exact .pure h

theorem gives_perform (h : e.InRange vocabularies) (action : Action) :
    Gives (e.perform? vocabularies action) (e.perform action) (Leaves vocabularies) := by
  apply (gives_apply (h.prepare action) action).bind
  intro houtcome
  apply (gives_settle houtcome).bind
  intro hsettled
  exact gives_pure hsettled

theorem gives_performNamed (h : e.InRange vocabularies) (name : String) :
    Gives (e.performNamed? vocabularies name) (e.performNamed name) (Leaves vocabularies) := by
  rw [performNamed?, performNamed]
  cases Action.ofName? name with
  | none => exact gives_pure h
  | some action => exact gives_perform h action

theorem gives_typeChar (h : e.InRange vocabularies) (c : Char) :
    Gives (e.typeChar? c) (e.typeChar c) (InRange vocabularies) := by
  apply (Console.gives_insert h.console [c]).bind
  intro hinserted
  exact gives_draw ⟨hinserted, h.history, h.completers⟩

theorem gives_press (h : e.InRange vocabularies) (key : Key) :
    Gives (e.press? vocabularies key) (e.press key) (InRange vocabularies) := by
  rw [press?, press]
  cases e.keymap.lookup e.layer key with
  | some name =>
    apply (gives_performNamed h name).bind
    intro hperformed
    exact .pure hperformed
  | none =>
    cases e.layer with
    | command => exact .pure h
    | insert =>
      cases key.printable? with
      | none => exact .pure h
      | some c => exact gives_typeChar h c

theorem gives_insertPaste (h : e.InRange vocabularies) (pasted : Text) :
    Gives (e.insertPaste? pasted) (e.insertPaste pasted) (InRange vocabularies) := by
  rw [insertPaste?, insertPaste]
  cases e.layer with
  | command => exact .pure h
  | insert =>
    dsimp only
    split
    · exact .pure h
    · -- a paste ends a search, which changes nothing that is to be in range
      have hquiet : ({ e with searchTerm := none, layer := .insert } : Editor).InRange
          vocabularies := ⟨h.console, h.history, h.completers⟩
      apply (gives_insertDiscrete hquiet (flattenPaste pasted)).bind
      intro hinserted
      exact gives_draw hinserted

/-- Every unit of input makes its accesses in range, and leaves everything in range. -/
theorem gives_take (h : e.InRange vocabularies) (token : Token) :
    Gives (e.take? vocabularies token) (e.take token) (InRange vocabularies) := by
  cases token with
  | key k => exact gives_press h k
  | paste t => exact gives_insertPaste h t

end Editor

end LineEditor

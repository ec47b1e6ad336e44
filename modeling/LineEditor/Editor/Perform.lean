import LineEditor.Editor.Accept
import LineEditor.Editor.Change
import LineEditor.Editor.Offer
import LineEditor.Editor.Recall
import LineEditor.Key.Reader

/-!
# From keys to edits

A key is looked up in the keymap and the action found there is performed; a key without a binding
types its character in the insert layer. A paste is inserted as it is, and never looked up. After
every change of what is shown the line is drawn.

## Main definitions

* `Editor.apply` is what each action does.
* `Editor.perform`, `Editor.performNamed`.
* `Editor.take` is what a unit of input does.
-/

namespace LineEditor.Editor

/-- What an action does. -/
def apply (e : Editor) : Action → Outcome
  | .acceptLine => e.acceptLine
  | .deleteChar => e.deleteChar
  | .backwardDeleteChar => e.backwardDeleteChar
  | .changeCaseChar => e.changeCase
  | .killLine => e.killLine
  | .unixLineDiscard => e.discardLine
  | .backwardKillWord => e.killWordBefore
  | .yank => e.yank
  | .forwardChar => e.forwardChar
  | .backwardChar => e.backwardChar
  | .forwardWord => e.forwardWord
  | .backwardWord => e.backwardWord
  | .beginningOfLine => e.beginningOfLine
  | .endOfLine => e.endOfLine
  | .previousHistory => e.previousEntry
  | .nextHistory => e.nextEntry
  | .reverseSearchHistory => e.searchHistory .reverse
  | .forwardSearchHistory => e.searchHistory .forward
  | .complete => e.complete
  | .undo => e.undo
  | .viMovementMode => e.enterCommandLayer
  | .viInsertMode => e.enterInsertLayer
  | .viAppendMode => e.appendAfterCursor
  | .viInsertBeginningOfLine => e.insertAtStart
  | .viAppendEndOfLine => e.appendAtEnd

/-- Draws the line if the outcome asks for it. -/
def settle (outcome : Outcome) : Editor :=
  if outcome.2 then outcome.1.onConsole (·.draw) else outcome.1

/-- Gets ready for an action: it is noted, a search that it does not go on with is over, and so is
the run of insertions. -/
def prepare (e : Editor) (action : Action) : Editor :=
  { e with
    trail := action :: e.trail
    searchTerm := if action.isSearch then e.searchTerm else none
    console := e.console.endRun }

/-- Performs an action, and tells whether the line was drawn anew for it. -/
def perform (e : Editor) (action : Action) : Outcome :=
  -- the run of insertions ends before the action looks at the line
  let outcome := (e.prepare action).apply action
  (settle outcome, outcome.2)

/-- Performs the action with a name. A name without an action does nothing. -/
def performNamed (e : Editor) (name : String) : Outcome :=
  match Action.ofName? name with
  | some action => e.perform action
  | none => (e, false)

/-- Types a character. -/
def typeChar (e : Editor) (c : Char) : Editor :=
  { e with searchTerm := none }.onConsole fun k => (k.insert [c]).draw

/-- What a key does. -/
def press (e : Editor) (key : Key) : Editor :=
  match e.keymap.lookup e.layer key with
  | some name => (e.performNamed name).1
  | none =>
    match e.layer, key.printable? with
    | .insert, some c => e.typeChar c
    | _, _ => e

/-- A pasted text as one line: each line break becomes a space. -/
def flattenPaste : Text → Text
  | [] => []
  | '\r' :: '\n' :: rest => ' ' :: flattenPaste rest
  | c :: rest => (if c = '\r' ∨ c = '\n' then ' ' else c) :: flattenPaste rest

/-- Inserts a pasted text as one edit. The command layer takes no text. -/
def insertPaste (e : Editor) (pasted : Text) : Editor :=
  let t := flattenPaste pasted
  match e.layer with
  | .command => e
  | .insert =>
    if t.isEmpty then e
    else { e with searchTerm := none }.onConsole fun c => (c.insertDiscrete t).draw

/-- What a unit of input does. -/
def take (e : Editor) : Token → Editor
  | .key k => e.press k
  | .paste t => e.insertPaste t

end LineEditor.Editor

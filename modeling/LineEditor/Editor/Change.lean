import LineEditor.Editor.Motion
import LineEditor.Unicode.Case

/-!
# Changing the line

The actions that remove, replace, put back and undo. Each of them is one edit of the console, so
that undo and the kill ring see all of them; one that finds nothing to do leaves the line as it is
drawn.

## Main definitions

* `Editor.deleteChar`, `Editor.backwardDeleteChar`, `Editor.changeCase`.
* `Editor.killLine`, `Editor.discardLine`, `Editor.killWordBefore`, `Editor.yank`, `Editor.undo`.
-/

namespace LineEditor.Editor

/-- Applies an edit that counts what it removes. -/
def removing (e : Editor) (edit : Console → Console × Nat) : Outcome :=
  let (console, removed) := edit e.console
  ({ e with console }, removed > 0)

/-- Nothing is shown of what is typed. -/
def isUnseen (e : Editor) : Bool :=
  e.buffer.prompt.mask = some .hidden

/-- Removes the whole line where nothing is shown of it. The line is drawn in any case. -/
def removeUnseen (e : Editor) : Outcome :=
  (e.onConsole (·.deleteUnseen.1), false)

/-- In the command layer, steps back from the end of the line to its last character. -/
def restOnCharacter (e : Editor) : Editor :=
  match e.layer with
  | .command =>
    if e.buffer.cursor = e.buffer.line.length then e.onBuffer (·.moveCursor (-1)) else e
  | .insert => e

/-- Removes the character at the cursor. -/
def deleteChar (e : Editor) : Outcome :=
  if e.isUnseen then e.removeUnseen
  else
    let (after, changed) := e.removing (·.deleteForward 1)
    (if changed then after.restOnCharacter else after, changed)

/-- Removes the character before the cursor. -/
def backwardDeleteChar (e : Editor) : Outcome :=
  if e.isUnseen then e.removeUnseen else e.removing (·.deletePrevious 1)

/-- Changes the case of the character at the cursor and moves on. -/
def changeCase (e : Editor) : Outcome :=
  match e.buffer.line[e.buffer.cursor]? with
  | none => (e, false)
  | some c =>
    let replaced := e.onConsole fun k => (k.replaceChar (Unicode.toggleCase c) e.buffer.cursor).1
    (replaced.onBuffer (·.moveCursor 1), true)

/-- Removes everything from the cursor on. -/
def killLine (e : Editor) : Outcome :=
  e.removing (·.killToEnd)

/-- Removes everything before the cursor. -/
def discardLine (e : Editor) : Outcome :=
  e.removing (·.killToStart)

/-- Removes the word before the cursor and the spaces behind it. A word is a run of characters
other than spaces. -/
def killWordBefore (e : Editor) : Outcome :=
  let cursor := e.buffer.cursor
  let before := e.buffer.line.take cursor
  e.removing (·.deleteRange (cursor - Text.firstWordEnd (· ≠ ' ') before.reverse) cursor)

/-- Inserts what was removed last. -/
def yank (e : Editor) : Outcome :=
  let (console, done) := e.console.yank
  ({ e with console }, done)

/-- Undoes the last edit. -/
def undo (e : Editor) : Outcome :=
  let (console, done) := e.console.undo
  ({ e with console }, done)

end LineEditor.Editor

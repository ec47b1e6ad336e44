import LineEditor.Action.Basic
import LineEditor.Completion
import LineEditor.Edit.Console
import LineEditor.History.Basic
import LineEditor.Keymap
import LineEditor.Text.Quote

/-!
# The editor

Everything that an action may look at or change: the console, the history, the keymap, the
completers and the few settings and marks that live as long as a session. Actions are functions on
the editor and keep nothing of their own.

## Main definitions

* `Editor`, `Editor.new`.
* `Outcome` is what an action leaves: an editor, and whether its line has to be drawn anew.
-/

namespace LineEditor

/-- What is written to go to a new row of the terminal. -/
def lineBreak : Text := "\r\n".toList

/-- The state that actions work on. `searchTerm` is the text that consecutive searches look for,
`accepted` the first line accepted since it was last taken, and `trail` the actions performed,
with the newest first. -/
structure Editor where
  console : Console
  history : History
  keymap : Keymap
  continuation : QuoteContinuation := .enabled
  completers : List Completer := []
  layer : Layer := .insert
  width : Nat := 80
  searchTerm : Option Text := none
  accepted : Option Text := none
  trail : List Action := []

/-- What an action leaves: the editor, and whether the line has to be drawn anew. -/
abbrev Outcome := Editor × Bool

namespace Editor

/-- An editor on an empty line. -/
def new (prompt : Prompt) (history : History) (keymap : Keymap)
    (continuation : QuoteContinuation) : Editor :=
  { console := .ofPrompt prompt, history, keymap, continuation }

/-- The line being edited and its surroundings. -/
def buffer (e : Editor) : Buffer := e.console.buffer

/-- Applies a change of the console. -/
def onConsole (e : Editor) (f : Console → Console) : Editor :=
  { e with console := f e.console }

/-- Applies a change of the buffer that undo need not know about. -/
def onBuffer (e : Editor) (f : Buffer → Buffer) : Editor :=
  e.onConsole (·.onBuffer f)

/-- The width in cells is at least one. -/
def setWidth (e : Editor) (width : Nat) : Editor :=
  { e with width := max width 1 }

/-- Starts a read: the line is drawn under the prompt. -/
def beginLine (e : Editor) (prompt : Prompt) : Editor :=
  e.onConsole fun c => (c.onBuffer (·.setPrompt prompt)).draw

/-- Forgets the accepted line. -/
def forgetAccepted (e : Editor) : Editor :=
  { e with accepted := none }

/-- Takes the accepted line, if there is one. -/
def takeAccepted (e : Editor) : Editor × Option Text :=
  (e.forgetAccepted, e.accepted)

/-- Takes the output that waits. -/
def takeOutput (e : Editor) : Editor × Text :=
  let (console, output) := e.console.takeOutput
  ({ e with console }, output)

@[simp]
theorem console_onConsole (e : Editor) (f : Console → Console) :
    (e.onConsole f).console = f e.console := rfl

@[simp]
theorem history_onConsole (e : Editor) (f : Console → Console) :
    (e.onConsole f).history = e.history := rfl

@[simp]
theorem buffer_onBuffer (e : Editor) (f : Buffer → Buffer) :
    (e.onBuffer f).buffer = f e.buffer := rfl

end Editor

end LineEditor

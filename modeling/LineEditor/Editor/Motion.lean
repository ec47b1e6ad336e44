import LineEditor.Editor.Basic
import LineEditor.Unicode.Letter

/-!
# Moving about

The actions that move the cursor, and those that change between the layers of vi mode. In the
command layer the cursor rests on a character, so that a motion ends at the last one at the
latest; in the insert layer it may stand behind it.

## Main definitions

* `Editor.moveTo` and the motions by characters and words.
* `Editor.enterCommandLayer`, `Editor.enterInsertLayer`.
-/

namespace LineEditor

/-- The number of characters up to the end of the first word of a text, words being runs of
characters with the given property. -/
def Text.firstWordEnd (inWord : Char → Bool) (t : Text) : Nat :=
  let word := t.dropWhile (!inWord ·)
  t.length - word.length + (word.takeWhile inWord).length

namespace Editor

/-- The last place of the cursor that the layer admits. -/
def lastPlace (e : Editor) : Nat :=
  match e.layer with
  | .command => e.buffer.line.length - 1
  | .insert => e.buffer.line.length

/-- Moves the cursor to a place, or to the last place when that lies further on. -/
def moveTo (e : Editor) (place : Nat) : Outcome :=
  let moved := e.onBuffer (·.setCursor (min place e.lastPlace))
  (moved, e.buffer.cursor ≠ moved.buffer.cursor)

def forwardChar (e : Editor) : Outcome :=
  e.moveTo (e.buffer.cursor + 1)

def backwardChar (e : Editor) : Outcome :=
  e.moveTo (e.buffer.cursor - 1)

def beginningOfLine (e : Editor) : Outcome :=
  e.moveTo 0

def endOfLine (e : Editor) : Outcome :=
  e.moveTo e.buffer.line.length

/-- Moves behind the next word, a word being a run of letters and numbers. -/
def forwardWord (e : Editor) : Outcome :=
  let after := e.buffer.line.drop e.buffer.cursor
  e.moveTo (e.buffer.cursor + Text.firstWordEnd Unicode.isLetterOrNumber after)

/-- Moves to the start of the word before the cursor. -/
def backwardWord (e : Editor) : Outcome :=
  let before := e.buffer.line.take e.buffer.cursor
  e.moveTo (e.buffer.cursor - Text.firstWordEnd Unicode.isLetterOrNumber before.reverse)

/-- Goes to the command layer, where the cursor comes to rest on the character before it. -/
def enterCommandLayer (e : Editor) : Outcome :=
  match e.layer with
  | .command => (e, false)
  | .insert =>
    (({ e with layer := .command }.onConsole (·.endRun)).onBuffer (·.moveCursor (-1)), true)

/-- Goes to the insert layer. -/
def enterInsertLayer (e : Editor) : Outcome :=
  ({ e with layer := .insert }, false)

/-- Goes to the insert layer with the cursor at a place. -/
def insertAt (e : Editor) (place : Nat) : Outcome :=
  ({ e with layer := .insert }.onBuffer (·.setCursor place), true)

/-- Goes to the insert layer, behind the character the cursor rests on. -/
def appendAfterCursor (e : Editor) : Outcome :=
  e.insertAt (e.buffer.cursor + 1)

def insertAtStart (e : Editor) : Outcome :=
  e.insertAt 0

def appendAtEnd (e : Editor) : Outcome :=
  e.insertAt e.buffer.line.length

end Editor

end LineEditor

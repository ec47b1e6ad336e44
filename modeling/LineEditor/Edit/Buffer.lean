import LineEditor.Screen.Grid

/-!
# The edit buffer

The line being edited, the cursor in it, the prompt in front of it and the physical lines that
were folded into the same entry before it. Nothing here remembers how to undo.

The cursor is an index into the line and stays between 0 and its length. Where it is shown is a
different matter, since a mask hides what is typed and characters take different numbers of
cells.

## Main definitions

* `Mask`, `Prompt`, `Buffer` and the edits of a buffer.
* `Buffer.visibleLine` and `Buffer.displayCursor` are what a terminal shows.
* `Buffer.drawing` is what is written to draw the line.
-/

namespace LineEditor

/-- How masked input is shown. -/
inductive Mask
  /-- Not at all. -/
  | hidden
  /-- As one glyph for each character. -/
  | glyph (c : Char)
  deriving DecidableEq, Repr

/-- The text in front of the line, and how the line is masked. -/
structure Prompt where
  text : Text := []
  mask : Option Mask := none
  deriving DecidableEq, Repr

/-- The prompt of a line that continues an entry. -/
def continuationPrompt : Text := "> ".toList

/-- The line being edited. `folded` holds the physical lines before it, each with its line
separator, and `mainPrompt` is the prompt of the first one. -/
structure Buffer where
  line : Text := []
  cursor : Nat := 0
  multiLine : Bool := false
  folded : Text := []
  prompt : Prompt := {}
  mainPrompt : Prompt := {}
  deriving DecidableEq, Repr

namespace Buffer

/-- An empty line under a prompt. -/
def ofPrompt (prompt : Prompt) : Buffer :=
  { prompt, mainPrompt := prompt }

/-- Input is masked. -/
def isMasked (b : Buffer) : Bool :=
  b.prompt.mask.isSome

/-- Sets the prompt of this read and of the ones that follow. -/
def setPrompt (b : Buffer) (prompt : Prompt) : Buffer :=
  { b with prompt, mainPrompt := prompt }

/-- Sets the mask of this read and of the ones that follow. -/
def setMask (b : Buffer) (mask : Option Mask) : Buffer :=
  { b with prompt := { b.prompt with mask }, mainPrompt := { b.mainPrompt with mask } }

/-- Inserts at the cursor, which ends up behind the inserted text. -/
def insert (b : Buffer) (t : Text) : Buffer :=
  { b with
    line := b.line.take b.cursor ++ t ++ b.line.drop b.cursor
    cursor := b.cursor + t.length }

/-- Removes up to `n` characters at the cursor. -/
def deleteForward (b : Buffer) (n : Nat) : Buffer × Text :=
  ({ b with line := b.line.take b.cursor ++ b.line.drop (b.cursor + n) },
    (b.line.drop b.cursor).take n)

/-- Removes up to `n` characters before the cursor. -/
def deletePrevious (b : Buffer) (n : Nat) : Buffer × Text :=
  let start := b.cursor - n
  ({ b with line := b.line.take start ++ b.line.drop b.cursor, cursor := start },
    (b.line.take b.cursor).drop start)

/-- Removes the characters from `start` up to `stop`, as far as there are any, and puts the cursor
in their place. -/
def deleteRange (b : Buffer) (start stop : Nat) : Buffer × Text :=
  let stop := min stop b.line.length
  let start := min start stop
  ({ b with line := b.line.take start ++ b.line.drop stop, cursor := start },
    (b.line.take stop).drop start)

/-- Overwrites the character at `pos`, if there is one. -/
def replaceChar (b : Buffer) (c : Char) (pos : Nat) : Buffer × Bool :=
  ({ b with line := b.line.set pos c }, pos < b.line.length)

/-- Puts a text in place of the line, and the cursor at its end. -/
def replace (b : Buffer) (t : Text) : Buffer :=
  { b with line := t, cursor := t.length }

/-- Puts the cursor at `pos`, or at the end when the line is shorter. -/
def setCursor (b : Buffer) (pos : Nat) : Buffer :=
  { b with cursor := min pos b.line.length }

/-- Moves the cursor by `delta`, as far as the line goes. -/
def moveCursor (b : Buffer) (delta : Int) : Buffer :=
  b.setCursor ((b.cursor : Int) + delta).toNat

/-- Empties the line, forgets the folded lines and goes back to the main prompt. -/
def reset (b : Buffer) : Buffer :=
  ofPrompt b.mainPrompt

def setMultiLine (b : Buffer) (on : Bool) : Buffer :=
  { b with multiLine := on }

/-- A line without the one backslash that may stand at its end. -/
def dropContinuation (t : Text) : Text :=
  if t.getLast? = some '\\' then t.dropLast else t

/-- Folds the line into the entry: one backslash at its end is dropped and a line separator
added. The next physical line starts empty, under the continuation prompt. -/
def fold (b : Buffer) : Buffer :=
  { b with
    line := []
    cursor := 0
    folded := b.folded ++ dropContinuation b.line ++ [Screen.lineSeparator]
    prompt := { text := continuationPrompt, mask := b.mainPrompt.mask } }

/-- The whole entry: the folded lines and the line being edited. -/
def entry (b : Buffer) : Text :=
  b.folded ++ b.line

/-- What is shown behind the prompt. -/
def visibleLine (b : Buffer) : Text :=
  match b.prompt.mask with
  | some .hidden => []
  | some (.glyph g) => List.replicate b.line.length g
  | none => b.line

/-- The columns between the prompt and the place where the cursor is shown. -/
def displayCursor (b : Buffer) : Nat :=
  match b.prompt.mask with
  | some .hidden => 0
  | some (.glyph _) => b.cursor
  | none => Screen.visibleWidth (b.line.take b.cursor)

/-- The columns between the place where the cursor is shown and the end of the visible line. -/
def tailWidth (b : Buffer) : Nat :=
  Screen.visibleWidth b.visibleLine - b.displayCursor

/-- Moves the terminal's cursor back. -/
def moveBack (columns : Nat) : Text :=
  if columns = 0 then [] else "\x1b[".toList ++ Text.ofNat columns ++ ['D']

/-- Goes to the first column and clears the row. -/
def clearRow : Text := "\r\x1b[2K".toList

/-- What is written to draw the prompt and the line and to leave the terminal's cursor at the
place of the cursor. -/
def drawing (b : Buffer) : Text :=
  clearRow ++ b.prompt.text ++ b.visibleLine ++ moveBack b.tailWidth

@[simp]
theorem entry_ofPrompt (p : Prompt) : (ofPrompt p).entry = [] := rfl

theorem cursor_setCursor_le (b : Buffer) (pos : Nat) :
    (b.setCursor pos).cursor ≤ (b.setCursor pos).line.length :=
  Nat.min_le_right _ _

theorem cursor_moveCursor_le (b : Buffer) (delta : Int) :
    (b.moveCursor delta).cursor ≤ (b.moveCursor delta).line.length :=
  cursor_setCursor_le _ _

@[simp]
theorem line_setCursor (b : Buffer) (pos : Nat) : (b.setCursor pos).line = b.line := rfl

@[simp]
theorem line_moveCursor (b : Buffer) (delta : Int) : (b.moveCursor delta).line = b.line := rfl

end Buffer

end LineEditor

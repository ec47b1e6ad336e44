import LineEditor.Editor.Basic
import LineEditor.Text.Escaped

/-!
# Accepting a line

What Enter does. Masked input is accepted as it is and kept out of the history. A comment is
thrown away. A line that ends in an odd number of backslashes, or leaves a quotation of the entry
open, is folded into the entry, which goes on with the next line. Everything else completes the
entry, which is put into the history unless it is blank.

## Main definitions

* `Editor.LineEnding` says which of these a line is, by `Editor.lineEnding`.
* `Editor.acceptLine`.
-/

namespace LineEditor

/-- The number of backslashes at the end of a text is odd. -/
def Text.endsInEscape (t : Text) : Bool :=
  (t.reverse.takeWhile (· = '\\')).length % 2 = 1

namespace Editor

/-- What Enter makes of the line. -/
inductive LineEnding
  | masked
  | comment
  /-- The line ends in a backslash that joins it with the next one. -/
  | escaped
  | openQuote
  | complete
  deriving DecidableEq, Repr

/-- What Enter makes of the line, the first of these that applies. -/
def lineEnding (b : Buffer) (continuation : QuoteContinuation) : LineEnding :=
  if b.isMasked then .masked
  else if (Text.trim b.line).head? = some '#' then .comment
  else if (Text.trim b.line).endsInEscape then .escaped
  else if b.entry.endsInQuote continuation.kinds then .openQuote
  else .complete

/-- Throws the line away and goes on under it. -/
def discardComment (e : Editor) : Editor :=
  (e.onBuffer (·.replace [])).onConsole (·.write lineBreak)

/-- Folds the line into the entry and goes on under it. -/
def continueEntry (e : Editor) : Editor :=
  (e.onBuffer fun b => (b.setMultiLine true).fold).onConsole (·.write lineBreak)

/-- Hands the entry over and starts an empty line. The terminal's cursor goes behind the line
first. Of several entries the first one is kept. -/
def finish (e : Editor) (entry : Text) : Editor :=
  let size := e.buffer.line.length
  -- a cursor at the end is where the terminal's cursor stands already
  let atEnd :=
    if e.buffer.cursor = size then e
    else (e.onBuffer (·.setCursor size)).onConsole (·.draw)
  { atEnd with accepted := e.accepted.or (some entry) }.onConsole fun c =>
    (c.write lineBreak).reset

/-- Puts an entry into the history, unless it is blank or the history is switched off. -/
def record (e : Editor) (entry : Text) : Editor :=
  if e.history.enabled && !entry.isBlank then { e with history := e.history.push entry } else e

/-- What Enter does. -/
def acceptLine (e : Editor) : Outcome :=
  let e := e.onConsole (·.clearUndo)
  match lineEnding e.buffer e.continuation with
  | .masked => (e.finish e.buffer.entry, false)
  | .comment => (e.discardComment, true)
  | .escaped => ((e.onBuffer fun b => b.replace b.line.trimEnd).continueEntry, true)
  | .openQuote => (e.continueEntry, true)
  | .complete => ((e.record e.buffer.entry).finish e.buffer.entry, false)

end Editor

end LineEditor

import LineEditor.Editor.Basic
import LineEditor.Screen.Grid

/-!
# Completing a word

The first completer with candidates decides. A single candidate is inserted with its separator;
of several, what they have in common is inserted, and when that is nothing they are listed below
the line.

## Main definitions

* `Editor.complete`.
-/

namespace LineEditor.Editor

/-- A candidate's rest in the form in which it is inserted: its spaces are escaped unless the
completer says that they need not be. -/
def insertedForm (r : CompletionRequest) (t : Text) : Text :=
  if r.ignoreUnescapedSpace then t else Text.escapeSpaces t

/-- Writes a list of candidates below the line, in as few rows as possible. -/
def listCandidates (e : Editor) (candidates : List Text) : Editor :=
  let rows := Text.lines (Screen.compactGrid candidates e.width)
  e.onConsole fun c => (c.write lineBreak).write (rows.flatMap (· ++ lineBreak))

/-- Inserts or lists what a completer found. -/
def offer (e : Editor) (r : CompletionRequest) : Editor :=
  match r.formattedCandidates with
  | [only] =>
    let separator := if r.appendSeparator then [r.separator] else []
    e.onConsole (·.insertDiscrete (insertedForm r only ++ separator))
  | several =>
    -- with nothing in common there is nothing to insert
    let common := if r.ignoreStartsWith then [] else Text.commonStart several
    if common.isEmpty then e.listCandidates r.candidates
    else e.onConsole (·.insertDiscrete (insertedForm r common))

/-- Completes the word at the cursor. -/
def complete (e : Editor) : Outcome :=
  match Completer.firstAnswer? e.completers e.buffer.line e.buffer.cursor with
  | none => (e, false)
  | some r => (e.offer r, true)

end LineEditor.Editor

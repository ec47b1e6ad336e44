import LineEditor.Editor.Basic

/-!
# Recalling entries

The actions that put an entry of the history in place of the line, by stepping or by searching.
Where the history is switched off they do nothing.

## Main definitions

* `Editor.previousEntry`, `Editor.nextEntry`.
* `Editor.searchHistory`.
-/

namespace LineEditor.Editor

/-- Puts a recalled text in place of the line, if there is one. -/
def putRecalled (e : Editor) (step : History × Option Text) : Outcome :=
  let e := { e with history := step.1 }
  match step.2 with
  | none => (e, false)
  | some t => (e.onConsole (·.replaceLine t), true)

/-- Steps to the next older entry. The first step keeps the line as the draft. -/
def previousEntry (e : Editor) : Outcome :=
  if !e.history.enabled then (e, false)
  else
    -- while stepping goes on, the line is an entry and not what the user was writing
    let history :=
      if e.history.isNavigating then e.history else e.history.setDraft e.buffer.line
    e.putRecalled history.previous

/-- Steps to the next newer entry, and behind the newest one to the draft. -/
def nextEntry (e : Editor) : Outcome :=
  if !e.history.enabled || !e.history.isNavigating then (e, false)
  else e.putRecalled e.history.next

/-- Searches for the line, or for what the search before this action was looking for. There is
nothing to search for on an empty line. -/
def searchHistory (direction : SearchDirection) (e : Editor) : Outcome :=
  if !e.history.enabled then (e, false)
  else
    let term := e.searchTerm.getD e.buffer.line
    if term.isEmpty then ({ e with searchTerm := none }, false)
    else
      { e with searchTerm := some term }.putRecalled ({ e.history with direction }.search term)

end LineEditor.Editor

import LineEditor.Editor.Perform
import LineEditor.History.File

/-!
# The engine

An editor that is fed with text. What is read from the text waits in a queue until it is run, and
a run stops as soon as a line is accepted: what waits then belongs to the next read.

## Main definitions

* `Engine`, `Engine.feed`, `Engine.run`.
* `Engine.drain` runs until nothing is left, and collects the accepted lines.
-/

namespace LineEditor

/-- An editor, the reader of its keys, and the input that waits. -/
structure Engine where
  editor : Editor
  reader : KeyReader := {}
  queue : List Token := []

namespace Engine

/-- Applies a change of the editor. -/
def onEditor (e : Engine) (f : Editor → Editor) : Engine :=
  { e with editor := f e.editor }

/-- Reads one chunk of text and puts what it holds into the queue. -/
def feed (e : Engine) (chunk : Text) : Engine :=
  let (reader, tokens) := e.reader.feed chunk
  { e with reader, queue := e.queue ++ tokens }

/-- Input waits. -/
def hasQueued (e : Engine) : Bool :=
  !e.queue.isEmpty

/-- Takes units of input until a line is accepted, and gives what is left of them. -/
def consume (e : Editor) : List Token → Editor × List Token
  | [] => (e, [])
  | token :: rest =>
    let e := e.take token
    if e.accepted.isSome then (e, rest) else consume e rest

/-- The next read starts in the insert layer, with no search going on. -/
def readyForRead (e : Editor) : Editor :=
  { e with layer := .insert, searchTerm := none }

/-- Runs the input that waits until a line is accepted. Only a line of this run counts. -/
def run (e : Engine) : Engine × Option Text :=
  let (editor, queue) := consume e.editor.forgetAccepted e.queue
  match editor.takeAccepted with
  | (editor, some line) => ({ e with editor := readyForRead editor, queue }, some line)
  | (editor, none) => ({ e with editor, queue }, none)

theorem length_consume_le (e : Editor) (tokens : List Token) :
    (consume e tokens).2.length ≤ tokens.length := by
  induction tokens generalizing e with
  | nil => exact Nat.le_refl _
  | cons token rest ih =>
    simp only [consume, List.length_cons]
    split
    · exact Nat.le_succ _
    · exact Nat.le_succ_of_le (ih _)

/-- A line takes at least one unit of input. -/
theorem length_queue_run_lt {e e' : Engine} {line : Text} (h : e.run = (e', some line)) :
    e'.queue.length < e.queue.length := by
  rw [run] at h
  cases hq : e.queue with
  | nil => simp [hq, consume, Editor.takeAccepted, Editor.forgetAccepted] at h
  | cons token rest =>
    have hle : (consume e.editor.forgetAccepted (token :: rest)).2.length ≤ rest.length := by
      simp only [consume]
      split
      · exact Nat.le_refl _
      · exact length_consume_le _ _
    simp only [hq, Editor.takeAccepted] at h
    split at h
    · obtain ⟨rfl, -⟩ := Prod.mk.inj h
      exact Nat.lt_succ_of_le hle
    · simp at h

/-- Runs until a run accepts no line, and collects the lines. -/
def drain (e : Engine) : Engine × List Text :=
  match h : e.run with
  | (e', none) => (e', [])
  | (e', some line) =>
    have := length_queue_run_lt h
    let (e'', lines) := drain e'
    (e'', line :: lines)
termination_by e.queue.length

/-- Takes the output that waits. -/
def takeOutput (e : Engine) : Engine × Text :=
  let (editor, output) := e.editor.takeOutput
  ({ e with editor }, output)

end Engine

end LineEditor

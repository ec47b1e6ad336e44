import LineEditor.Proofs.Access.Editor
import LineEditor.Proofs.Access.Reader

/-!
# No input makes an access out of range

An engine with checked accesses: chunks are read by the reader that keeps code points, and units of
input are taken with checks. Whatever is called on it, in any order and with any text, it comes to a
result, which is that of the engine. So no index, no slice and no difference is ever out of range,
and no loop goes on forever. The cursors, the positions and the pending sequence are in range not
only between two calls but also in the course of a call, behind every unit of input and every code
point.

## Main definitions

* `Engine.Call` are the calls of an engine, `Engine.call` and `Engine.calls` make them.
* `HeldEngine` is an engine whose reader keeps code points, and `HeldEngine.calls?` makes calls with
  checked accesses.
* `HeldEngine.InRange` and `Engine.InRangeThroughout` — what is in range between two calls, and all
  the time.
* `Engine.fresh` is an engine before its first call.

## Main results

* `HeldEngine.gives_call` — one call is in range, and leaves everything in range for the next.
* `Engine.calls_in_range` — so are all calls, from a fresh engine on.
-/

namespace LineEditor

open Access

/-! ### The calls of an engine -/

namespace Engine

/-- What may be called on an engine. -/
inductive Call
  | feed (chunk : Text)
  | run
  | beginLine (prompt : Prompt)
  | setMask (mask : Option Mask)
  | setWidth (width : Nat)
  | setKeymap (keymap : Keymap)
  | onHistory (op : HistoryOp)
  | takeOutput

/-- Makes a call. A run gives the line that it accepts, and output is given when it is taken. -/
def call (e : Engine) : Call → Engine × Option Text
  | .feed chunk => (e.feed chunk, none)
  | .run => e.run
  | .beginLine prompt => (e.onEditor (·.beginLine prompt), none)
  | .setMask mask => (e.onEditor (·.onBuffer (·.setMask mask)), none)
  | .setWidth width => (e.onEditor (·.setWidth width), none)
  | .setKeymap keymap => (e.onEditor fun d => { d with keymap }, none)
  | .onHistory op =>
    (e.onEditor fun d => { d with history := (d.history.perform op).1 },
      (e.editor.history.perform op).2)
  | .takeOutput => (e.takeOutput.1, some e.takeOutput.2)

/-- Makes several calls, and gives what each of them gave. -/
def calls (e : Engine) : List Call → Engine × List (Option Text)
  | [] => (e, [])
  | c :: rest => (((e.call c).1.calls rest).1, (e.call c).2 :: ((e.call c).1.calls rest).2)

/-- An engine before its first call: its history may have been used before, and its completers are
vocabularies. -/
def fresh (prompt : Prompt) (history : History) (keymap : Keymap)
    (continuation : QuoteContinuation) (vocabularies : List (List Text)) : Engine where
  editor := { Editor.new prompt history keymap continuation with
    completers := vocabularies.map Completer.wordList }

end Engine

/-! ### The same with checked accesses -/

/-- An engine whose reader keeps code points. -/
structure HeldEngine where
  editor : Editor
  reader : HeldReader := {}
  queue : List Token := []

/-- An engine with what its reader keeps as code points. -/
def Engine.held (e : Engine) : HeldEngine where
  editor := e.editor
  reader := e.reader.held
  queue := e.queue

namespace HeldEngine

/-- Applies a change of the editor. -/
def onEditor (e : HeldEngine) (f : Editor → Editor) : HeldEngine :=
  { e with editor := f e.editor }

/-- Reads one chunk of text. -/
def feed? (e : HeldEngine) (chunk : Text) : Option HeldEngine := do
  let read ← e.reader.feed? chunk
  pure { e with reader := read.1, queue := e.queue ++ read.2 }

/-- Takes units of input until a line is accepted. -/
def consume? (vocabularies : List (List Text)) (e : Editor) :
    List Token → Option (Editor × List Token)
  | [] => pure (e, [])
  | token :: rest => do
    let after ← e.take? vocabularies token
    if after.accepted.isSome then pure (after, rest) else consume? vocabularies after rest

/-- Runs the input that waits until a line is accepted. -/
def run? (vocabularies : List (List Text)) (e : HeldEngine) :
    Option (HeldEngine × Option Text) := do
  let left ← consume? vocabularies e.editor.forgetAccepted e.queue
  pure <|
    match left.1.takeAccepted with
    | (editor, some line) =>
      ({ e with editor := Engine.readyForRead editor, queue := left.2 }, some line)
    | (editor, none) => ({ e with editor, queue := left.2 }, none)

/-- Starts a read. -/
def beginLine? (e : HeldEngine) (prompt : Prompt) : Option HeldEngine := do
  let editor ← (e.editor.onBuffer (·.setPrompt prompt)).draw?
  pure { e with editor }

/-- Makes a call. -/
def call? (vocabularies : List (List Text)) (e : HeldEngine) :
    Engine.Call → Option (HeldEngine × Option Text)
  | .feed chunk => do
    let fed ← e.feed? chunk
    pure (fed, none)
  | .run => e.run? vocabularies
  | .beginLine prompt => do
    let begun ← e.beginLine? prompt
    pure (begun, none)
  | .setMask mask => pure (e.onEditor (·.onBuffer (·.setMask mask)), none)
  | .setWidth width => pure (e.onEditor (·.setWidth width), none)
  | .setKeymap keymap => pure (e.onEditor fun d => { d with keymap }, none)
  | .onHistory op => do
    let performed ← e.editor.history.perform? op
    pure (e.onEditor fun d => { d with history := performed.1 }, performed.2)
  | .takeOutput => pure ({ e with editor := e.editor.takeOutput.1 }, some e.editor.takeOutput.2)

/-- Makes several calls. -/
def calls? (vocabularies : List (List Text)) (e : HeldEngine) :
    List Engine.Call → Option (HeldEngine × List (Option Text))
  | [] => pure (e, [])
  | c :: rest => do
    let first ← e.call? vocabularies c
    let others ← first.1.calls? vocabularies rest
    pure (others.1, first.2 :: others.2)

/-- The cursors and the positions are in range, and the pending sequence is well-formed. -/
structure InRange (e : HeldEngine) : Prop where
  cursor : e.editor.buffer.cursor ≤ e.editor.buffer.line.length
  snapshots : ∀ s ∈ e.editor.console.undoStack.snapshots, s.cursor ≤ s.line.length
  fetch : e.editor.history.fetch ≤ e.editor.history.size
  gap : e.editor.history.gap ≤ e.editor.history.size
  reader : e.reader.WellFormed

end HeldEngine

namespace Engine

/-- Everything is in range between two calls, when a run has taken some of the units of input that
wait, and when some code points of a chunk have been read. -/
structure InRangeThroughout (e : Engine) : Prop where
  between : e.held.InRange
  running : ∀ before, before <+: e.queue →
    { e with editor := e.editor.forgetAccepted.takes before }.held.InRange
  reading : ∀ t : Text, { e with reader := (e.reader.steps t).1 }.held.InRange

/-- The editor is in range, and so is the mode of the reader. -/
structure Sound (vocabularies : List (List Text)) (e : Engine) : Prop where
  editor : e.editor.InRange vocabularies
  reader : e.reader.Bounded

variable {vocabularies : List (List Text)} {e : Engine}

theorem Sound.inRange_held (h : e.Sound vocabularies) : e.held.InRange where
  cursor := h.editor.console.cursor
  snapshots := h.editor.console.undo.cursors
  fetch := h.editor.history.fetch
  gap := h.editor.history.gap
  reader := h.reader.wellFormed_held

/-- Any number of units of input leave the editor in range. -/
theorem inRange_takes {d : Editor} (h : d.InRange vocabularies) (tokens : List Token) :
    (d.takes tokens).InRange vocabularies := by
  induction tokens generalizing d with
  | nil => exact h
  | cons token rest ih => exact ih (Editor.gives_take h token).ok

/-- What holds between two calls holds in the course of a call as well. -/
theorem Sound.inRangeThroughout (h : e.Sound vocabularies) : e.InRangeThroughout where
  between := h.inRange_held
  running before _ := by
    have htaken : Sound vocabularies { e with editor := e.editor.forgetAccepted.takes before } :=
      ⟨inRange_takes h.editor.forgetAccepted before, h.reader⟩
    exact htaken.inRange_held
  reading t := by
    have hread : Sound vocabularies { e with reader := (e.reader.steps t).1 } :=
      ⟨h.editor, h.reader.steps t⟩
    exact hread.inRange_held

/-- Whatever was done with its history before, a fresh engine is in range. -/
theorem sound_fresh (prompt : Prompt) {history : History} (hplace : history.InPlace)
    (keymap : Keymap) (continuation : QuoteContinuation) (vocabularies : List (List Text)) :
    (fresh prompt history keymap continuation vocabularies).Sound vocabularies where
  editor := ⟨Console.inRange_ofPrompt prompt, hplace, rfl⟩
  reader := KeyReader.bounded_fresh

end Engine

/-! ### Calls are in range -/

namespace HeldEngine

open Engine

variable {vocabularies : List (List Text)} {e : Engine}

theorem gives_consume {d : Editor} (h : d.InRange vocabularies) (tokens : List Token) :
    Gives (consume? vocabularies d tokens) (consume d tokens) (·.1.InRange vocabularies) := by
  induction tokens generalizing d with
  | nil =>
    apply Gives.pure
    exact h
  | cons token rest ih =>
    rw [consume?, consume]
    apply (Editor.gives_take h token).bind
    intro htaken
    split
    · apply Gives.pure
      exact htaken
    · exact ih htaken

theorem gives_feed (h : e.Sound vocabularies) (chunk : Text) :
    Gives (e.held.feed? chunk) (e.feed chunk).held
      (fun _ => (e.feed chunk).Sound vocabularies) := by
  apply (gives_of_eq (KeyReader.reads_feed h.reader chunk)).bind
  intro _
  exact .pure ⟨h.editor, h.reader.feed chunk⟩

theorem gives_run (h : e.Sound vocabularies) :
    Gives (e.held.run? vocabularies) (e.run.1.held, e.run.2)
      (fun _ => e.run.1.Sound vocabularies) := by
  rw [run?, run]
  apply (gives_consume h.editor.forgetAccepted e.queue).bind
  intro hconsumed
  -- whether a line was accepted or not, the editor keeps what is in range
  generalize consume e.editor.forgetAccepted e.queue = left at hconsumed
  obtain ⟨d, queue⟩ := left
  have hd : d.InRange vocabularies := hconsumed
  cases haccepted : d.accepted with
  | none =>
    simp only [Editor.takeAccepted, haccepted]
    exact .pure ⟨⟨hd.console, hd.history, hd.completers⟩, h.reader⟩
  | some line =>
    simp only [Editor.takeAccepted, haccepted]
    exact .pure ⟨⟨hd.console, hd.history, hd.completers⟩, h.reader⟩

theorem gives_beginLine (h : e.Sound vocabularies) (prompt : Prompt) :
    Gives (e.held.beginLine? prompt) (e.onEditor (·.beginLine prompt)).held
      (fun _ => (e.onEditor (·.beginLine prompt)).Sound vocabularies) := by
  have hprompt := h.editor.onBuffer (f := (·.setPrompt prompt)) h.editor.console.cursor
  apply (Editor.gives_draw hprompt).bind
  intro hdrawn
  exact .pure ⟨hdrawn, h.reader⟩

/-- A call makes its accesses in range, and leaves everything in range. -/
theorem gives_call (h : e.Sound vocabularies) (c : Call) :
    Gives (e.held.call? vocabularies c) ((e.call c).1.held, (e.call c).2)
      (fun _ => (e.call c).1.Sound vocabularies) := by
  cases c with
  | feed chunk =>
    apply (gives_feed h chunk).bind
    intro hfed
    exact .pure hfed
  | run => exact gives_run h
  | beginLine prompt =>
    apply (gives_beginLine h prompt).bind
    intro hbegun
    exact .pure hbegun
  | setMask mask =>
    have hmask := h.editor.onBuffer (f := (·.setMask mask)) h.editor.console.cursor
    exact .pure ⟨hmask, h.reader⟩
  | setWidth width =>
    exact .pure ⟨⟨h.editor.console, h.editor.history, h.editor.completers⟩, h.reader⟩
  | setKeymap keymap =>
    exact .pure ⟨⟨h.editor.console, h.editor.history, h.editor.completers⟩, h.reader⟩
  | onHistory op =>
    apply (gives_of_eq (e.editor.history.perform?_eq op)).bind
    intro _
    exact .pure ⟨⟨h.editor.console, h.editor.history.perform op, h.editor.completers⟩, h.reader⟩
  | takeOutput =>
    have hconsole : e.editor.console.takeOutput.1.InRange :=
      ⟨h.editor.console.cursor, h.editor.console.undo, h.editor.console.kills⟩
    exact .pure ⟨⟨hconsole, h.editor.history, h.editor.completers⟩, h.reader⟩

theorem gives_calls (h : e.Sound vocabularies) (calls : List Call) :
    Gives (e.held.calls? vocabularies calls) ((e.calls calls).1.held, (e.calls calls).2)
      (fun _ => (e.calls calls).1.Sound vocabularies) := by
  induction calls generalizing e with
  | nil => exact .pure h
  | cons c rest ih =>
    apply (gives_call h c).bind
    intro hfirst
    apply (ih hfirst).bind
    intro hothers
    exact .pure hothers

end HeldEngine

/-- Whatever is called on an engine, in whatever order: the calls come to a result with checked
accesses, which is that of the engine, and everything is in range then. -/
theorem Engine.calls_in_range (prompt : Prompt) (capacity : Nat) (file : Option HistoryFile)
    (ops : List HistoryOp) (keymap : Keymap) (continuation : QuoteContinuation)
    (vocabularies : List (List Text)) (calls : List Call) :
    let history : History := History.run { capacity, file } ops
    let start : Engine := fresh prompt history keymap continuation vocabularies
    start.held.calls? vocabularies calls =
        some ((start.calls calls).1.held, (start.calls calls).2) ∧
      (start.calls calls).1.InRangeThroughout := by
  intro history start
  have hplace : history.InPlace := (History.inPlace_new capacity file).run ops
  have hstart : start.Sound vocabularies :=
    sound_fresh prompt hplace keymap continuation vocabularies
  have hgives := HeldEngine.gives_calls hstart calls
  exact ⟨hgives.eq, hgives.ok.inRangeThroughout⟩

end LineEditor

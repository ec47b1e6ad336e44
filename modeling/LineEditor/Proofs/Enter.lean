import LineEditor.Proofs.Frame
import LineEditor.Proofs.Run

/-!
# What Enter leaves behind

Enter looks at the line once and then does one of five things, which differ in what they leave of
the buffer, of the history and of the accepted line. Each of these three is told here by the kind
of the line, so that nobody has to follow Enter step by step again.

## Main definitions

* `Editor.ending` is what Enter makes of the line, and `Editor.LineEnding.completes` singles out
  the endings with which the read is over.
* `Buffer.afterEnter` is what is left of the buffer.
* `Editor.Entered` — an editor that Enter made of another one.

## Main results

* `Editor.entered_take` — a unit that performs Enter does this and no more.
* `Editor.accepted_take_eq_some_iff` — which units of input accept which line.
-/

namespace LineEditor

namespace Editor

/-- The endings with which the read is over. -/
def LineEnding.completes : LineEnding → Bool
  | masked | complete => true
  | comment | escaped | openQuote => false

/-- What Enter makes of the line of an editor. -/
def ending (e : Editor) : LineEnding :=
  lineEnding e.buffer e.continuation

end Editor

/-- What Enter leaves of a buffer. -/
def Buffer.afterEnter (b : Buffer) : Editor.LineEnding → Buffer
  | .masked | .complete => b.reset
  | .comment => b.replace []
  | .escaped => ((b.replace b.line.trimEnd).setMultiLine true).fold
  | .openQuote => (b.setMultiLine true).fold

namespace Editor

theorem ending_eq_masked_iff (e : Editor) : e.ending = .masked ↔ e.buffer.isMasked = true := by
  by_cases hmask : e.buffer.isMasked = true
  · simp [ending, lineEnding, hmask]
  · simp only [ending, lineEnding, hmask]
    grind

/-- An entry is put into the history: the history is switched on and the entry is not blank. -/
def records (e : Editor) (entry : Text) : Bool :=
  e.history.enabled && !entry.isBlank

/-- The second editor is what Enter made of the first one. -/
structure Entered (e f : Editor) : Prop where
  rest : f = { e with
    console := f.console
    history := f.history
    searchTerm := f.searchTerm
    accepted := f.accepted
    trail := f.trail }
  buffer : f.buffer = e.buffer.afterEnter e.ending
  undoStack : f.console.undoStack = e.console.undoStack.clear
  history : f.history =
    if e.ending = .complete ∧ e.records e.buffer.entry then e.history.push e.buffer.entry
    else e.history
  accepted : f.accepted =
    if e.ending.completes then e.accepted.or (some e.buffer.entry) else e.accepted

theorem record_eq (e : Editor) (entry : Text) :
    e.record entry = { e with
      history := if e.records entry then e.history.push entry else e.history } := by
  rw [record, records]
  split
  · rfl
  · rfl

theorem finish_eq (e : Editor) (entry : Text) :
    e.finish entry = { e with
      console := (e.finish entry).console
      accepted := e.accepted.or (some entry) } := by
  rw [finish]
  split
  · rfl
  · rfl

theorem buffer_finish (e : Editor) (entry : Text) :
    (e.finish entry).buffer = e.buffer.reset := by
  rw [finish]
  split
  · rfl
  · rfl

theorem undoStack_finish (e : Editor) (entry : Text) :
    (e.finish entry).console.undoStack = e.console.undoStack.clear := by
  rw [finish]
  split
  · rfl
  · rfl

theorem entered_acceptLine (e : Editor) : e.Entered e.acceptLine.1 := by
  have hending : lineEnding (e.onConsole (·.clearUndo)).buffer
      (e.onConsole (·.clearUndo)).continuation = e.ending := rfl
  rw [acceptLine, hending]
  cases h : e.ending with
  | comment | escaped | openQuote => constructor <;> simp [h, LineEnding.completes] <;> rfl
  | masked =>
    dsimp only
    constructor
    · rw [finish_eq]; rfl
    · rw [buffer_finish, h]; rfl
    · rw [undoStack_finish]; rfl
    · rw [finish_eq, h]; rfl
    · rw [finish_eq, h]; rfl
  | complete =>
    dsimp only
    constructor
    · rw [finish_eq, record_eq]; rfl
    · rw [buffer_finish, record_eq, h]; rfl
    · rw [undoStack_finish, record_eq]; rfl
    · rw [finish_eq, record_eq, h]
      simp only [true_and]
      rfl
    · rw [finish_eq, record_eq, h]; rfl

theorem Entered.settle {e : Editor} {outcome : Outcome} (h : e.Entered outcome.1) :
    e.Entered (Editor.settle outcome) := by
  obtain ⟨hrest, hbuffer, hundo, hhistory, haccepted⟩ := h
  rw [Editor.settle]
  split
  · refine ⟨?_, hbuffer, hundo, hhistory, haccepted⟩
    rw [hrest]
    rfl
  · exact ⟨hrest, hbuffer, hundo, hhistory, haccepted⟩

theorem Entered.of_prepare {e f : Editor} (h : (e.prepare .acceptLine).Entered f) :
    e.Entered f := by
  obtain ⟨hrest, hbuffer, hundo, hhistory, haccepted⟩ := h
  exact ⟨hrest, hbuffer, hundo, hhistory, haccepted⟩

/-- A line that does not complete the read is not put into the history. -/
theorem Entered.history_eq {e f : Editor} (h : e.Entered f) (hending : e.ending.completes = false) :
    f.history = e.history := by
  have hne : e.ending ≠ .complete := by
    intro heq
    rw [heq] at hending
    contradiction
  rw [h.history, if_neg (fun hboth => hne hboth.1)]

/-- What a unit of input makes of an editor where it performs Enter. -/
theorem entered_take {e : Editor} {token : Token} (h : e.action? token = some .acceptLine) :
    e.Entered (e.take token) := by
  rw [take_of_action?_eq_some h]
  exact (entered_acceptLine (e.prepare .acceptLine)).settle.of_prepare

/-- A line is accepted by Enter alone, on a line that completes the read, and the line accepted is
the whole entry. -/
theorem accepted_take_eq_some_iff {e : Editor} {token : Token} {line : Text}
    (h : e.accepted = none) :
    (e.take token).accepted = some line ↔
      e.action? token = some .acceptLine ∧ e.ending.completes = true ∧ line = e.buffer.entry := by
  by_cases haction : e.action? token = some .acceptLine
  · rw [(entered_take haction).accepted, h]
    cases e.ending.completes with
    | true => simp [haction, eq_comm]
    | false => simp
  · rw [(framed_take haction).accepted_eq, h]
    simp [haction]

/-- Enter with which the read goes on is on a line that does not complete it. -/
theorem completes_eq_false_of_accepted_eq_none {e : Editor} {token : Token}
    (haction : e.action? token = some .acceptLine) (hnow : e.accepted = none)
    (hthen : (e.take token).accepted = none) : e.ending.completes = false := by
  cases hcompletes : e.ending.completes with
  | false => rfl
  | true =>
    have hline := (accepted_take_eq_some_iff hnow).mpr ⟨haction, hcompletes, rfl⟩
    rw [hthen] at hline
    contradiction

end Editor

end LineEditor

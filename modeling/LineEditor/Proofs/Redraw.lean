import LineEditor.Proofs.Masked
import LineEditor.Proofs.Turn

/-!
# The screen is up to date

In the course of a read the line is drawn many times, and what counts is that the last thing
written is a drawing of the line as it is. A unit of input that changes the line, the cursor or the
prompt writes such a drawing and nothing behind it; one that writes nothing has left all of them
alone.

What waits to be written may be taken at any time. So the whole output of a read is what was taken
together with what still waits.

## Main definitions

* `Console.RedrawnTo` — nothing shown has changed, or it was drawn last.
* `Display` is an editor with the output that was taken from it, and `Display.run` goes through a
  read; `Display.Shows` says that the output ends with the drawing of the line.

## Main results

* `Watch.cursorInLine_run` — in a session the cursor stays in the line.
* `Editor.redrawnTo_take` — every unit of input with which the read goes on.
* `Display.shows_run` — the output of a read ends with the drawing of the line, all the time.
-/

namespace LineEditor

namespace Console

/-- From one console to the next, nothing that is shown has changed and nothing was written, or
the line was drawn and nothing written after that. -/
def RedrawnTo (c c' : Console) : Prop :=
  c'.buffer = c.buffer ∧ c'.output = c.output ∨
    ∃ more, c'.output = c.output ++ (more ++ c'.buffer.drawing)

section RedrawnTo

variable {c c' : Console}

theorem RedrawnTo.refl (c : Console) : c.RedrawnTo c := .inl ⟨rfl, rfl⟩

/-- Whatever was written before it, drawing the line makes up for it. -/
theorem redrawnTo_draw (more : Text) (h : c'.output = c.output ++ more) :
    c.RedrawnTo c'.draw := by
  refine .inr ⟨more, ?_⟩
  rw [output_draw, h, List.append_assoc, buffer_draw]

theorem Edited.output_eq (h : c.Edited c') : c'.output = c.output := by
  cases h with
  | same => rfl
  | anew b k hb => rfl

theorem redrawnTo_draw_of_output_eq (h : c'.output = c.output) : c.RedrawnTo c'.draw := by
  apply redrawnTo_draw []
  rw [h, List.append_nil]

theorem output_insert (c : Console) (t : Text) : (c.insert t).output = c.output := by
  rw [insert]
  split
  · rfl
  · rfl

theorem Acted.redrawnTo {redraw : Bool} (h : c.Acted c' redraw) :
    c.RedrawnTo (if redraw then c'.draw else c') := by
  cases redraw with
  | true =>
    cases h with
    | edited h hkept => exact redrawnTo_draw_of_output_eq h.output_eq
    | moved place hkept => exact redrawnTo_draw_of_output_eq rfl
    | undone => exact redrawnTo_draw_of_output_eq rfl
    | listed s t =>
      apply redrawnTo_draw (s ++ t)
      rw [output_write, output_write, List.append_assoc]
  | false =>
    cases h with
    | edited h hkept =>
      rw [hkept rfl]
      exact .refl c
    | moved place hkept => exact .inl ⟨hkept rfl, rfl⟩
    | unseen h => exact redrawnTo_draw_of_output_eq h.output_eq

theorem Turned.redrawnTo (h : c.Turned c') : c.RedrawnTo c' := by
  cases h with
  | kept => exact .refl c
  | typed ch => exact redrawnTo_draw_of_output_eq (c.output_insert [ch])
  | pasted h => exact redrawnTo_draw_of_output_eq h.output_eq
  | acted h => exact h.redrawnTo

end RedrawnTo

end Console

namespace Editor

/-- Enter with which the read goes on writes a line break, and the next line is drawn below it. -/
theorem redrawnTo_acceptLine {e : Editor} (h : e.ending.completes = false) :
    e.console.RedrawnTo (settle e.acceptLine).console := by
  have hending : lineEnding (e.onConsole (·.clearUndo)).buffer
      (e.onConsole (·.clearUndo)).continuation = e.ending := rfl
  rw [acceptLine, hending]
  cases hkind : e.ending with
  | masked | complete =>
    rw [hkind] at h
    contradiction
  | comment | escaped | openQuote =>
    exact Console.redrawnTo_draw lineBreak (Console.output_write _ lineBreak)

/-- A unit of input with which the read goes on changes nothing that is shown, or draws it last. -/
theorem redrawnTo_take {e : Editor} {token : Token} (hcursor : e.buffer.CursorInLine)
    (hnow : e.accepted = none) (hthen : (e.take token).accepted = none) :
    e.console.RedrawnTo (e.take token).console := by
  by_cases haction : e.action? token = some .acceptLine
  · have hgoes := completes_eq_false_of_accepted_eq_none haction hnow hthen
    rw [take_of_action?_eq_some haction]
    exact redrawnTo_acceptLine (e := e.prepare .acceptLine) hgoes
  · exact (turned_take hcursor haction).redrawnTo

/-- A line that was accepted stays so. -/
theorem accepted_eq_none_of_take {e : Editor} {token : Token}
    (h : (e.take token).accepted = none) : e.accepted = none := by
  by_cases haction : e.action? token = some .acceptLine
  · rw [(entered_take haction).accepted] at h
    split at h
    · exact (Option.or_eq_none_iff.mp h).1
    · exact h
  · rw [(framed_take haction).accepted_eq] at h
    exact h

end Editor

/-! ### The cursor in a session -/

namespace Watch

theorem cursorInLine_take {w : Watch} (token : Token) (h : w.editor.buffer.CursorInLine) :
    (w.take token).editor.buffer.CursorInLine := by
  have hdigested : (w.editor.digest token).1.buffer.CursorInLine := Editor.cursorInLine_digest h
  rcases hdigest : w.editor.digest token with ⟨e, accepted⟩
  rw [hdigest] at hdigested
  rw [take, hdigest]
  cases accepted with
  | some line => exact hdigested
  | none =>
    dsimp only
    split
    · exact hdigested
    · exact hdigested

/-- The cursor stays in the line in every session. -/
theorem cursorInLine_run {w : Watch} (events : List ReadEvent)
    (h : w.editor.buffer.CursorInLine) : (w.run events).editor.buffer.CursorInLine := by
  induction events generalizing w with
  | nil => exact h
  | cons event rest ih =>
    apply ih
    cases event with
    | token t => exact cursorInLine_take t h
    | interrupt => exact Nat.le_refl _
    | begin prompt | resize width | switchHistory on => exact h

end Watch

/-! ### A read on a display -/

/-- What happens on a display in the course of a read: a unit of input comes in, or the output that
waits is taken and written. -/
inductive DisplayEvent
  | token (t : Token)
  | flush

/-- An editor and what has been written of its output since the read began. -/
structure Display where
  editor : Editor
  written : Text := []

namespace Display

open Editor

/-- A read begins. The line that was accepted before has been taken. -/
def begin (e : Editor) (prompt : Prompt) : Display :=
  { editor := e.forgetAccepted.beginLine prompt }

/-- One event. -/
def step (d : Display) : DisplayEvent → Display
  | .token t => { d with editor := d.editor.take t }
  | .flush =>
    let (editor, output) := d.editor.takeOutput
    { editor, written := d.written ++ output }

/-- A read as far as it has come. -/
def run (d : Display) (events : List DisplayEvent) : Display :=
  events.foldl step d

/-- All output: what was written, and what waits. -/
def total (d : Display) : Text :=
  d.written ++ d.editor.console.output

/-- The output after what waited when the read began ends with the drawing of the line. -/
def Shows (d : Display) (before : Text) : Prop :=
  ∃ out, d.total = before ++ out ∧ d.editor.buffer.drawing <:+ out

variable {d : Display} {before : Text}

@[simp]
theorem total_flush (d : Display) : (d.step .flush).total = d.total := by
  have hempty : (d.step .flush).editor.console.output = [] := rfl
  rw [total, hempty, List.append_nil]
  rfl

/-- The display follows a console that was drawn, or is as before. -/
theorem Shows.of_redrawnTo {d' : Display} (h : d.Shows before) (hwritten : d'.written = d.written)
    (hredrawn : d.editor.console.RedrawnTo d'.editor.console) : d'.Shows before := by
  obtain ⟨out, htotal, hsuffix⟩ := h
  rcases hredrawn with ⟨hbuffer, houtput⟩ | ⟨more, houtput⟩
  · refine ⟨out, ?_, ?_⟩
    · rw [total, hwritten, houtput]
      exact htotal
    · rw [buffer, hbuffer]
      exact hsuffix
  · refine ⟨out ++ (more ++ d'.editor.console.buffer.drawing), ?_, ?_⟩
    · calc d'.total
          = d.written ++ (d.editor.console.output ++
              (more ++ d'.editor.console.buffer.drawing)) := by rw [total, hwritten, houtput]
        _ = d.total ++ (more ++ d'.editor.console.buffer.drawing) := by
              rw [total, List.append_assoc]
        _ = before ++ (out ++ (more ++ d'.editor.console.buffer.drawing)) := by
              rw [htotal, List.append_assoc]
    · exact (List.suffix_append more _).trans (List.suffix_append out _)

theorem shows_begin (e : Editor) (prompt : Prompt) :
    (begin e prompt).Shows e.console.output := by
  refine ⟨(e.console.onBuffer (·.setPrompt prompt)).buffer.drawing, ?_, List.suffix_rfl⟩
  exact Console.output_draw (e.console.onBuffer (·.setPrompt prompt))

theorem shows_step (event : DisplayEvent) (h : d.Shows before)
    (hcursor : d.editor.buffer.CursorInLine) (hgoes : (d.step event).editor.accepted = none) :
    (d.step event).Shows before := by
  cases event with
  | token t =>
    have hnow := accepted_eq_none_of_take hgoes
    exact h.of_redrawnTo rfl (redrawnTo_take hcursor hnow hgoes)
  | flush =>
    obtain ⟨out, htotal, hsuffix⟩ := h
    exact ⟨out, (total_flush d).trans htotal, hsuffix⟩

theorem cursorInLine_step (event : DisplayEvent) (h : d.editor.buffer.CursorInLine) :
    (d.step event).editor.buffer.CursorInLine := by
  cases event with
  | token t => exact cursorInLine_take h
  | flush => exact h

theorem accepted_eq_none_of_step {event : DisplayEvent}
    (h : (d.step event).editor.accepted = none) : d.editor.accepted = none := by
  cases event with
  | token t => exact accepted_eq_none_of_take h
  | flush => exact h

theorem cursorInLine_run (events : List DisplayEvent) (h : d.editor.buffer.CursorInLine) :
    (d.run events).editor.buffer.CursorInLine := by
  induction events generalizing d with
  | nil => exact h
  | cons event rest ih => exact ih (cursorInLine_step event h)

theorem accepted_eq_none_of_run {events : List DisplayEvent}
    (h : (d.run events).editor.accepted = none) : d.editor.accepted = none := by
  induction events generalizing d with
  | nil => exact h
  | cons event rest ih => exact accepted_eq_none_of_step (ih h)

theorem Shows.run {events : List DisplayEvent} (h : d.Shows before)
    (hcursor : d.editor.buffer.CursorInLine) (hgoes : (d.run events).editor.accepted = none) :
    (d.run events).Shows before := by
  induction events generalizing d with
  | nil => exact h
  | cons event rest ih =>
    have hnow : (d.step event).editor.accepted = none := accepted_eq_none_of_run hgoes
    exact ih (shows_step event h hcursor hnow) (cursorInLine_step event hcursor) hgoes

/-- The screen never goes stale: as long as no line is accepted, all output since the read began
ends with the drawing of the line as it is, whenever the output was taken. And each further unit of
input leaves what is shown alone or draws it last. All that is asked of the editor is a cursor that
stands in the line, as it does in every session. -/
theorem shows_run {e : Editor} (prompt : Prompt) (events : List DisplayEvent)
    (hcursor : e.buffer.CursorInLine)
    (hgoes : ((begin e prompt).run events).editor.accepted = none) :
    ((begin e prompt).run events).Shows e.console.output ∧
      ∀ token, (((begin e prompt).run events).editor.take token).accepted = none →
        ((begin e prompt).run events).editor.console.RedrawnTo
          (((begin e prompt).run events).editor.take token).console := by
  have hbegin : (begin e prompt).editor.buffer.CursorInLine := hcursor
  refine ⟨(shows_begin e prompt).run hbegin hgoes, ?_⟩
  intro token hthen
  exact redrawnTo_take (cursorInLine_run events hbegin) hgoes hthen

/-- A line that is changed in the middle, taken output, and a second line under the continuation
prompt. -/
theorem shows_run_two_lines :
    let e : Editor := .new {} { capacity := 50 } (.ofMode .emacs) .enabled
    let events := (typed "ab\x01c\x05\\").map DisplayEvent.token ++ .flush ::
      (typed "\rde\x02").map DisplayEvent.token
    let d := (begin e { text := ['$'] }).run events
    e.buffer.CursorInLine ∧ d.editor.accepted = none ∧
      d.editor.buffer.line = "de".toList ∧ d.editor.buffer.cursor = 1 ∧
      d.Shows e.console.output := by
  refine ⟨by decide, by decide, by decide, by decide, ?_⟩
  exact (shows_run { text := ['$'] } _ (by decide) (by decide)).1

end Display

end LineEditor

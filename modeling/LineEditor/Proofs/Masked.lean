import LineEditor.Proofs.Enter
import LineEditor.Proofs.Recall
import LineEditor.Proofs.Run
import Mathlib.Tactic.ByContra

/-!
# What masked input leaves behind

Masked input is kept out of the history, but the history also holds a draft: the line that was being
edited when stepping began. Where stepping is not over when a read ends, the draft outlives the
read, and a later read can step to it. To tell whose draft it is, an editor is watched in the course
of a session.

## Main definitions

* `ReadEvent` is what happens to an editor in a session.
* `Watch` is an editor with what is noted about it, and `Watch.run` watches a session.
* `Watch.KeepsToRead` — a recall puts an entry on the screen, or what stood there in this read.
* `Watch.Discloses` — stepping gets to the draft of an earlier read.

## Main results

* `Watch.sound_run` — what is noted is true in every session.
* `Watch.keepsToRead_iff` — masked input reaches no entry, and a recall keeps to its read exactly if
  it does not disclose the draft of an earlier one.
-/

namespace LineEditor

/-- The actions that step through the entries. -/
def Action.isStep : Action → Bool
  | previousHistory | nextHistory => true
  | _ => false

/-- What happens to an editor in the course of a session. -/
inductive ReadEvent
  | begin (prompt : Prompt)
  | token (t : Token)
  | interrupt
  | resize (width : Nat)
  | switchHistory (on : Bool)

/-- An editor in the course of a session. `own` is the line that was on the screen when stepping
began in the read that is going on, and `leftOver` tells that stepping has been going on since an
earlier read. -/
structure Watch where
  editor : Editor
  own : Option Text
  leftOver : Bool

namespace Watch

open Editor

/-- A read begins. -/
def atRead (e : Editor) : Watch :=
  { editor := e.forgetAccepted, own := none, leftOver := e.history.isNavigating }

/-- The line that was on the screen before stepping began. -/
def draft (w : Watch) : Text :=
  w.own.getD w.editor.buffer.line

/-- A unit of input steps through the entries and puts a line on the screen. -/
def steps (w : Watch) (token : Token) : Bool :=
  (w.editor.action? token).any Action.isStep && (w.editor.recalled? token).isSome

/-- A unit of input comes in. When stepping is over nothing is left to be noted. -/
def take (w : Watch) (token : Token) : Watch :=
  match w.editor.digest token with
  | (e, some _) => atRead e
  | (e, none) =>
    if e.history.isNavigating then
      { editor := e
        own := if w.steps token then some w.draft else w.own
        leftOver := w.leftOver }
    else { editor := e, own := none, leftOver := false }

/-- One event of a session. -/
def step (w : Watch) : ReadEvent → Watch
  | .begin prompt => atRead (w.editor.beginLine prompt)
  | .token t => w.take t
  | .interrupt => atRead (w.editor.onConsole (·.reset))
  | .resize width => { w with editor := w.editor.setWidth width }
  | .switchHistory on =>
    { w with editor := { w.editor with history := { w.editor.history with enabled := on } } }

/-- A session. -/
def run (w : Watch) (events : List ReadEvent) : Watch :=
  events.foldl step w

/-- What is noted is true: stepping that goes on was left over, or else it began at the line that is
noted, and the history has kept that line. -/
structure Sound (w : Watch) : Prop where
  accepted : w.editor.accepted = none
  own : w.editor.history.isNavigating = false → w.own = none
  leftOver : w.leftOver = true → w.editor.history.isNavigating = true
  draft : w.editor.history.isNavigating = true → w.leftOver = false →
    w.own = some w.editor.history.draft

/-- A recalled line is an entry, or the line that was on the screen before stepping began. -/
def KeepsToRead (w : Watch) (token : Token) : Prop :=
  ∀ line, w.editor.recalled? token = some line →
    line ∈ w.editor.history.entries ∨ line = w.draft

/-- A step behind the newest entry gets to the draft of an earlier read, and it is neither an entry
nor what was on the screen in this read. -/
structure Discloses (w : Watch) (token : Token) : Prop where
  action : w.editor.action? token = some .nextHistory
  atDraft : w.editor.history.AtDraftNext
  leftOver : w.leftOver = true
  foreign : w.editor.history.draft ∉ w.editor.history.entries ∧ w.editor.history.draft ≠ w.draft

theorem sound_atRead (e : Editor) : (atRead e).Sound := by
  refine ⟨rfl, fun _ => rfl, id, ?_⟩
  intro hnavigating hleft
  exact absurd (hnavigating.symm.trans hleft) Bool.noConfusion

section Step

variable {w : Watch} {token : Token}

/-- A unit of input that accepts no line recalls something, or leaves the history alone. -/
theorem history_take_cases (hnow : w.editor.accepted = none)
    (hthen : (w.editor.take token).accepted = none) :
    (∃ action, w.editor.action? token = some action ∧ action.isRecall = true) ∨
      w.editor.recalled? token = none ∧
        (w.editor.take token).history = w.editor.history := by
  by_cases hrecall : ∃ action, w.editor.action? token = some action ∧ action.isRecall = true
  · exact .inl hrecall
  · have hnot : ∀ action, w.editor.action? token = some action → action.isRecall = false := by
      intro action haction
      by_contra h
      exact hrecall ⟨action, haction, by simpa using h⟩
    refine .inr ⟨recalled?_eq_none hnot, ?_⟩
    by_cases haccept : w.editor.action? token = some .acceptLine
    · exact (entered_take haccept).history_eq
        (completes_eq_false_of_accepted_eq_none haccept hnow hthen)
    · have hedit : ∀ action, w.editor.action? token = some action →
          action ≠ .acceptLine ∧ action.isRecall = false := by
        intro action haction
        exact ⟨fun heq => haccept (heq ▸ haction), hnot action haction⟩
      exact (edited_take hedit).history_eq

/-- While a read goes on and stepping does, the line that is noted is the one that the history has
kept, unless stepping was left over. -/
theorem own_take (h : w.Sound) (hthen : (w.editor.take token).accepted = none)
    (hnavigating : (w.editor.take token).history.isNavigating = true)
    (hleft : w.leftOver = false) :
    (if w.steps token then some w.draft else w.own) =
      some (w.editor.take token).history.draft := by
  rcases history_take_cases h.accepted hthen with ⟨action, haction, hrecall⟩ | ⟨hnone, hsame⟩
  · obtain ⟨hhistory, -, hrecalled⟩ := recall_take haction hrecall
    rw [hhistory] at hnavigating ⊢
    rcases History.look_of_isNavigating hnavigating with
      ⟨hbefore, hdraft⟩ | ⟨hbefore, rfl, hdraft, hsome⟩
    · -- stepping went on before, so that there is a line already
      have hown := h.draft hbefore hleft
      rw [draft, hown, look, hdraft]
      split
      · rfl
      · rfl
    · -- stepping begins here
      have hsteps : w.steps token = true := by
        rw [steps, haction, hrecalled]
        exact hsome
      rw [hsteps, draft, h.own hbefore, look, hdraft]
      rfl
  · rw [hsame] at hnavigating ⊢
    have hsteps : w.steps token = false := by rw [steps, hnone]; simp
    rw [hsteps]
    exact h.draft hnavigating hleft

theorem sound_take (h : w.Sound) (token : Token) : (w.take token).Sound := by
  have hforget := forgetAccepted_of_accepted_eq_none h.accepted
  rw [take]
  cases haccepted : (w.editor.take token).accepted with
  | some line =>
    rw [digest_of_accepted_eq_some (hforget.symm ▸ haccepted)]
    exact sound_atRead _
  | none =>
    rw [digest_of_accepted_eq_none (hforget.symm ▸ haccepted), hforget]
    dsimp only
    split
    · next hnavigating =>
      refine ⟨haccepted, ?_, fun _ => hnavigating, fun _ => own_take h haccepted hnavigating⟩
      intro hnot
      exact absurd (hnavigating.symm.trans hnot) Bool.noConfusion
    · next hnot =>
      refine ⟨haccepted, fun _ => rfl, Bool.noConfusion, ?_⟩
      intro hnavigating
      exact absurd hnavigating hnot

end Step

theorem sound_step {w : Watch} (h : w.Sound) (event : ReadEvent) : (w.step event).Sound := by
  cases event with
  | begin prompt => exact sound_atRead _
  | token t => exact sound_take h t
  | interrupt => exact sound_atRead _
  | resize width =>
    obtain ⟨haccepted, hown, hleft, hdraft⟩ := h
    exact ⟨haccepted, hown, hleft, hdraft⟩
  | switchHistory on =>
    obtain ⟨haccepted, hown, hleft, hdraft⟩ := h
    exact ⟨haccepted, hown, hleft, hdraft⟩

/-- What is noted in a session is true. -/
theorem sound_run {w : Watch} (h : w.Sound) (events : List ReadEvent) : (w.run events).Sound := by
  induction events generalizing w with
  | nil => exact h
  | cons event rest ih => exact ih (sound_step h event)

/-- An operation on masked input changes no entry. -/
theorem entries_digest_of_isMasked {e : Editor} (hmask : e.buffer.isMasked = true)
    (token : Token) : (e.digest token).1.history.entries = e.history.entries := by
  rw [history_digest]
  by_cases haccept : e.forgetAccepted.action? token = some .acceptLine
  · have hmasked : e.forgetAccepted.ending = .masked := (ending_eq_masked_iff _).mpr hmask
    rw [(entered_take haccept).history, hmasked]
    rfl
  · exact (framed_take haccept).entries_eq

theorem keepsToRead_iff_not_discloses {w : Watch} (h : w.Sound) (token : Token) :
    w.KeepsToRead token ↔ ¬w.Discloses token := by
  constructor
  · rintro hkeeps ⟨haction, hat, -, hnotMem, hne⟩
    obtain ⟨-, -, hrecalled⟩ := recall_take haction rfl
    rw [look, History.look_next_of_atDraftNext hat] at hrecalled
    rcases hkeeps _ hrecalled with hmem | heq
    · exact hnotMem hmem
    · exact hne heq
  · intro hnot line hline
    obtain ⟨action, haction, hlook⟩ := exists_look_of_recalled? hline
    rcases History.mem_entries_of_look hlook with hmem | ⟨rfl, hat, rfl⟩
    · exact .inl hmem
    · cases hleft : w.leftOver with
      | false =>
        refine .inr ?_
        rw [draft, h.draft hat.2.1 hleft]
        rfl
      | true =>
        by_contra hneither
        exact hnot ⟨haction, hat, hleft, not_or.mp hneither⟩

/-- In every session, an operation on masked input changes no entry; and in every read, masked or
not, what a recall puts on the screen is an entry or the line that was there before stepping began
in that read, exactly if the recall does not step behind the newest entry to the draft of an earlier
read. -/
theorem keepsToRead_iff (e : Editor) (events : List ReadEvent) (token : Token) :
    let w := (atRead e).run events
    (w.editor.buffer.isMasked = true →
      (w.editor.digest token).1.history.entries = w.editor.history.entries) ∧
      (w.KeepsToRead token ↔ ¬w.Discloses token) := by
  have hsound := sound_run (sound_atRead e) events
  exact ⟨fun hmask => entries_digest_of_isMasked hmask token,
    keepsToRead_iff_not_discloses hsound token⟩

/-- A password that was left by stepping to an entry before Enter is on the screen of the next read
after one step. -/
theorem keepsToRead_password :
    let history : History := History.push { capacity := 50 } "ls".toList
    let e : Editor := .new {} history (.ofMode .emacs) .enabled
    let password := (typed "secret\x1b[A\r").map ReadEvent.token
    let w := (atRead e).run (.begin { mask := some .hidden } :: password ++ [.begin {}])
    let down : Token := .key (.plain .down)
    w.editor.buffer.isMasked = false ∧ w.editor.recalled? down = some "secret".toList ∧
      ¬w.KeepsToRead down := by
  have hrecalled : ((atRead (.new {} (History.push { capacity := 50 } "ls".toList)
      (.ofMode .emacs) .enabled)).run (.begin { mask := some .hidden } ::
        (typed "secret\x1b[A\r").map .token ++ [.begin {}])).editor.recalled?
      (.key (.plain .down)) = some "secret".toList := by decide
  refine ⟨by decide, hrecalled, ?_⟩
  intro hkeeps
  exact absurd (hkeeps _ hrecalled) (by decide)

end Watch

end LineEditor

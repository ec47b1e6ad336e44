import LineEditor.Proofs.Access.History
import LineEditor.Proofs.Masked

/-!
# Stepping comes back to the draft

The first step to an older entry keeps the line, and stepping behind the newest entry puts it back.
In between the recalled lines may be edited, searches may put other entries on the screen, and
stepping may run against the oldest entry. None of this moves the place at which stepping stands,
except the steps themselves; so the place is known from the actions alone, and the draft stays.

## Main definitions

* `Editor.heed` is what an event does to an editor, `Editor.heeds` what several do, and
  `Editor.actions` are the actions that they perform.
* `History.SteppingAt` is where stepping stands, and `Editor.StepsFrom` what the next step does.
* `Editor.SteppingRun` — stepping begins, and goes on while some events happen.

## Main results

* `Editor.steppingAt_heed` and `Editor.steppingAt_heeds` — while stepping goes on, the entries and
  the draft stay, and the place goes along with the steps.
* `Editor.draft_comes_back` — what each step shows, up to the one that puts the draft back.
-/

namespace LineEditor

/-- The place of stepping after an action that leaves stepping going on. There is none before the
oldest entry. -/
def Action.placeAfter (place : Nat) : Action → Nat
  | previousHistory => place - 1
  | nextHistory => place + 1
  | _ => place

/-- The event does not switch the history off. -/
def ReadEvent.keepsHistoryOn : ReadEvent → Bool
  | switchHistory on => on
  | _ => true

namespace History

/-- Stepping goes on at a place in some entries, and is to come back to a draft. -/
structure SteppingAt (h : History) (entries : List Text) (draft : Text) (place : Nat) : Prop where
  enabled : h.enabled = true
  entries_eq : h.entries = entries
  draft_eq : h.draft = draft
  fetch_eq : h.fetch = place
  inside : place < entries.length

namespace SteppingAt

variable {h : History} {entries : List Text} {draft line term : Text} {place : Nat}

theorem isNavigating (hat : h.SteppingAt entries draft place) : h.isNavigating = true := by
  simp [History.isNavigating, hat.entries_eq, hat.fetch_eq, hat.inside]

theorem isEmpty_entries (hat : h.SteppingAt entries draft place) : h.entries.isEmpty = false := by
  rw [hat.entries_eq]
  exact List.isEmpty_eq_false_iff.mpr (List.ne_nil_of_length_pos (Nat.zero_lt_of_lt hat.inside))

theorem older_inside (hat : h.SteppingAt entries draft place) : place - 1 < entries.length :=
  Nat.lt_of_le_of_lt (Nat.sub_le place 1) hat.inside

/-- Stepping goes on at another place with the same entries and the same draft. -/
theorem move (hat : h.SteppingAt entries draft place) {place' : Nat}
    (hinside : place' < entries.length) :
    ({ h with fetch := place' } : History).SteppingAt entries draft place' :=
  ⟨hat.enabled, hat.entries_eq, hat.draft_eq, rfl, hinside⟩

theorem look_previous (hat : h.SteppingAt entries draft place) :
    h.look line term .previousHistory =
      ({ h with fetch := place - 1 }, entries[place - 1]?) := by
  rw [History.look, if_pos hat.enabled, beginStepping, if_pos hat.isNavigating, previous,
    hat.isEmpty_entries, if_neg Bool.false_ne_true, hat.entries_eq, hat.fetch_eq]

theorem look_next (hat : h.SteppingAt entries draft place) (hnewer : place + 1 < entries.length) :
    h.look line term .nextHistory =
      ({ h with fetch := place + 1 }, entries[place + 1]?) := by
  have hon : (h.enabled && h.isNavigating) = true :=
    Bool.and_eq_true_iff.mpr ⟨hat.enabled, hat.isNavigating⟩
  rw [History.look, if_pos hon, next, hat.isEmpty_entries, if_neg Bool.false_ne_true,
    hat.entries_eq, hat.fetch_eq, if_pos hnewer]

/-- From the newest entry stepping comes back to the draft, and is over. -/
theorem look_next_newest (hat : h.SteppingAt entries draft place)
    (hnewest : entries.length ≤ place + 1) :
    h.look line term .nextHistory = ({ h with fetch := entries.length }, some draft) := by
  have hatDraft : h.AtDraftNext := by
    refine ⟨hat.enabled, hat.isNavigating, ?_⟩
    rw [hat.entries_eq, hat.fetch_eq]
    exact hnewest
  rw [look_next_of_atDraftNext hatDraft, hat.entries_eq, hat.draft_eq]

/-- A search does not move the place of stepping. -/
theorem lookFor (hat : h.SteppingAt entries draft place) (direction : SearchDirection) :
    (h.lookFor direction term).1.SteppingAt entries draft place := by
  obtain ⟨henabled, hentries, hdraft, hfetch, hinside⟩ := hat
  rw [History.lookFor]
  split
  · simp only [search]
    split
    · exact ⟨henabled, hentries, hdraft, hfetch, hinside⟩
    · exact ⟨henabled, hentries, hdraft, hfetch, hinside⟩
  · exact ⟨henabled, hentries, hdraft, hfetch, hinside⟩

/-- A look at the history that does not step behind the newest entry moves the place of stepping by
the step that it is. -/
theorem look (hat : h.SteppingAt entries draft place) {action : Action}
    (hstays : action = .nextHistory → place + 1 < entries.length) :
    (h.look line term action).1.SteppingAt entries draft (action.placeAfter place) := by
  cases action with
  | previousHistory =>
    rw [hat.look_previous]
    exact hat.move hat.older_inside
  | nextHistory =>
    have hnewer := hstays rfl
    rw [hat.look_next hnewer]
    exact hat.move hnewer
  | reverseSearchHistory => exact hat.lookFor .reverse
  | forwardSearchHistory => exact hat.lookFor .forward
  | _ => exact hat

end SteppingAt

/-- The first step to an older entry begins stepping at the newest one, with the line as the
draft. -/
theorem steppingAt_look_previous {h : History} {line term : Text} (henabled : h.enabled = true)
    (hplace : h.InPlace) (hstill : h.isNavigating = false)
    (hthen : (h.look line term .previousHistory).1.isNavigating = true) :
    (h.look line term .previousHistory).1.SteppingAt h.entries line (h.entries.length - 1) ∧
      (h.look line term .previousHistory).2 = h.entries.getLast? := by
  have hle : h.fetch ≤ h.entries.length := hplace.fetch
  have hfetch : h.fetch = h.entries.length :=
    Nat.le_antisymm hle (by simpa [isNavigating] using hstill)
  cases hnewest : h.entries.getLast? with
  | none =>
    -- without entries there is nothing to step through
    have hnil : h.entries = [] := List.getLast?_eq_none_iff.mp hnewest
    simp [look, henabled, beginStepping, previous, setDraft, hnil, isNavigating] at hthen
  | some newest =>
    have hpos : 0 < h.entries.length := List.length_pos_of_mem (List.mem_of_getLast? hnewest)
    rw [look_previous_of_fetch_eq henabled hfetch hnewest]
    exact ⟨⟨henabled, rfl, rfl, rfl, Nat.sub_lt hpos Nat.one_pos⟩, rfl⟩

/-- Looking at a history leaves its positions in place. -/
theorem InPlace.look {h : History} (hplace : h.InPlace) (line term : Text) (action : Action) :
    (h.look line term action).1.InPlace := by
  have hsearch : ∀ direction, (h.lookFor direction term).1.InPlace := by
    intro direction
    rw [lookFor]
    split
    · exact InPlace.search (h := { h with direction }) ⟨hplace.fetch, hplace.gap⟩ term
    · exact hplace
  cases action with
  | previousHistory =>
    have hbegin : (h.beginStepping line).InPlace := by
      rw [beginStepping]
      split
      · exact hplace
      · exact ⟨hplace.fetch, hplace.gap⟩
    rw [History.look]
    split
    · exact hbegin.previous
    · exact hplace
  | nextHistory =>
    rw [History.look]
    split
    · exact hplace.next
    · exact hplace
  | reverseSearchHistory => exact hsearch .reverse
  | forwardSearchHistory => exact hsearch .forward
  | _ => exact hplace

end History

namespace Editor

/-! ### Sessions -/

/-- What an event of a session does to an editor. -/
def heed (e : Editor) : ReadEvent → Editor
  | .begin prompt => e.beginLine prompt
  | .token t => (e.digest t).1
  | .interrupt => e.onConsole (·.reset)
  | .resize width => e.setWidth width
  | .switchHistory on => { e with history := { e.history with enabled := on } }

/-- What several events do to an editor. -/
def heeds (e : Editor) (events : List ReadEvent) : Editor :=
  events.foldl heed e

@[simp]
theorem heeds_cons (e : Editor) (event : ReadEvent) (rest : List ReadEvent) :
    e.heeds (event :: rest) = (e.heed event).heeds rest := rfl

/-- The action that an event performs, if it performs one. -/
def doneBy? (e : Editor) : ReadEvent → Option Action
  | .token t => e.action? t
  | _ => none

/-- The actions that several events perform. -/
def actions : Editor → List ReadEvent → List Action
  | _, [] => []
  | e, event :: rest => (e.doneBy? event).toList ++ actions (e.heed event) rest

/-- Stepping goes on while the events happen: before them, between them and behind them. -/
def Navigates : Editor → List ReadEvent → Prop
  | e, [] => e.history.isNavigating = true
  | e, event :: rest => e.history.isNavigating = true ∧ Navigates (e.heed event) rest

instance decidableNavigates : (e : Editor) → (events : List ReadEvent) →
    Decidable (e.Navigates events)
  | _, [] => inferInstanceAs (Decidable (_ = _))
  | e, event :: rest =>
    have := decidableNavigates (e.heed event) rest
    inferInstanceAs (Decidable (_ ∧ _))

theorem Navigates.isNavigating {e : Editor} {events : List ReadEvent} (h : e.Navigates events) :
    e.history.isNavigating = true := by
  cases events with
  | nil => exact h
  | cons event rest => exact h.1

section Stepping

variable {e : Editor} {entries : List Text} {draft : Text} {place : Nat} {token : Token}
  {action : Action}

/-- Every action but Enter leaves the history as its look at it does. -/
theorem history_take (haction : e.action? token = some action) (haccept : action ≠ .acceptLine) :
    (e.take token).history = (e.look action).1 := by
  cases hrecall : action.isRecall with
  | true => exact (recall_take haction hrecall).1
  | false =>
    have hedit : ∀ a, e.action? token = some a → a ≠ .acceptLine ∧ a.isRecall = false := by
      intro a ha
      obtain rfl := Option.some.inj (haction.symm.trans ha)
      exact ⟨haccept, hrecall⟩
    rw [(edited_take hedit).history_eq]
    cases action with
    | previousHistory | nextHistory | reverseSearchHistory | forwardSearchHistory => contradiction
    | _ => rfl

/-- A unit of input leaves the positions in the history in place. -/
theorem inPlace_take (hplace : e.history.InPlace) (token : Token) :
    (e.take token).history.InPlace := by
  cases haction : e.action? token with
  | none =>
    rw [(edited_take_of_action?_eq_none haction).history_eq]
    exact hplace
  | some action =>
    by_cases haccept : action = .acceptLine
    · rw [(entered_take (haccept ▸ haction)).history]
      split
      · exact History.inPlace_resetPositions _
      · exact hplace
    · rw [history_take haction haccept]
      exact hplace.look _ _ action

/-- Whatever happens in a session, the positions in the history stay in place. -/
theorem inPlace_heeds (hplace : e.history.InPlace) (events : List ReadEvent) :
    (e.heeds events).history.InPlace := by
  induction events generalizing e with
  | nil => exact hplace
  | cons event rest ih =>
    refine ih ?_
    cases event with
    | token t =>
      rw [heed, history_digest]
      exact inPlace_take (e := e.forgetAccepted) hplace t
    | begin | interrupt | resize => exact hplace
    | switchHistory on => exact ⟨hplace.fetch, hplace.gap⟩

/-! ### What one event does -/

/-- A unit of input that is not Enter hands no line over. -/
theorem heed_token (haccept : e.action? token ≠ some .acceptLine) :
    e.heed (.token token) = e.forgetAccepted.take token := by
  have hframed : e.forgetAccepted.Framed (e.forgetAccepted.take token) := framed_take haccept
  rw [heed, digest_of_accepted_eq_none (hframed.accepted_eq.trans rfl)]

/-- A step shows what it finds in the history, and leaves the history as its look at it does. -/
theorem step_heed (haction : e.action? token = some action) (hstep : action.isStep = true) :
    (e.heed (.token token)).history = (e.look action).1 ∧
      (e.heed (.token token)).buffer.line = (e.look action).2.getD e.buffer.line := by
  have hrecall : action.isRecall = true := by
    cases action with
    | previousHistory | nextHistory => rfl
    | _ => contradiction
  have haccept : e.action? token ≠ some .acceptLine := by
    rw [haction]
    rintro ⟨⟩
    contradiction
  obtain ⟨hhistory, hline, -⟩ := recall_take (e := e.forgetAccepted) haction hrecall
  rw [heed_token haccept]
  exact ⟨hhistory, hline⟩

theorem older_heed (hat : e.history.SteppingAt entries draft place)
    (haction : e.action? token = some .previousHistory) :
    some (e.heed (.token token)).buffer.line = entries[place - 1]? := by
  obtain ⟨-, hline⟩ := step_heed haction rfl
  rw [hline, look, hat.look_previous, List.getElem?_eq_getElem hat.older_inside]
  rfl

theorem newer_heed (hat : e.history.SteppingAt entries draft place)
    (haction : e.action? token = some .nextHistory) (hnewer : place + 1 < entries.length) :
    some (e.heed (.token token)).buffer.line = entries[place + 1]? := by
  obtain ⟨-, hline⟩ := step_heed haction rfl
  rw [hline, look, hat.look_next hnewer, List.getElem?_eq_getElem hnewer]
  rfl

theorem newest_heed (hat : e.history.SteppingAt entries draft place)
    (haction : e.action? token = some .nextHistory) (hnewest : entries.length ≤ place + 1) :
    (e.heed (.token token)).buffer.line = draft ∧
      (e.heed (.token token)).history.isNavigating = false := by
  obtain ⟨hhistory, hline⟩ := step_heed haction rfl
  rw [hline, hhistory, look, hat.look_next_newest hnewest]
  exact ⟨rfl, by simp [History.isNavigating, hat.entries_eq]⟩

/-- An event that does not step behind the newest entry keeps the entries and the draft, and moves
the place of stepping by the step that it is. -/
theorem steppingAt_heed {event : ReadEvent} (hat : e.history.SteppingAt entries draft place)
    (hkeeps : event.keepsHistoryOn = true) (haccept : e.doneBy? event ≠ some .acceptLine)
    (hstays : e.doneBy? event = some .nextHistory → place + 1 < entries.length) :
    (e.heed event).history.SteppingAt entries draft
      ((e.doneBy? event).elim place (·.placeAfter place)) := by
  cases event with
  | begin prompt => exact hat
  | token t =>
    rw [heed_token haccept, doneBy?]
    cases haction : e.action? t with
    | none =>
      rw [(edited_take_of_action?_eq_none (e := e.forgetAccepted) haction).history_eq]
      exact hat
    | some action =>
      rw [history_take (e := e.forgetAccepted) haction fun heq => haccept (heq ▸ haction)]
      exact hat.look fun heq => hstays (heq ▸ haction)
  | interrupt => exact hat
  | resize width => exact hat
  | switchHistory on => exact ⟨hkeeps, hat.entries_eq, hat.draft_eq, hat.fetch_eq, hat.inside⟩

/-- Stepping is over after a step forward from the newest entry, and after nothing else. -/
theorem isNavigating_heed_eq_false_iff {event : ReadEvent}
    (hat : e.history.SteppingAt entries draft place)
    (hkeeps : event.keepsHistoryOn = true) (haccept : e.doneBy? event ≠ some .acceptLine) :
    (e.heed event).history.isNavigating = false ↔
      e.doneBy? event = some .nextHistory ∧ place + 1 = entries.length := by
  by_cases hlast : e.doneBy? event = some .nextHistory ∧ place + 1 = entries.length
  · refine iff_of_true ?_ hlast
    cases event with
    | token t => exact (newest_heed hat hlast.1 (Nat.le_of_eq hlast.2.symm)).2
    | _ => simp [doneBy?] at hlast
  · have hgoes := steppingAt_heed hat hkeeps haccept fun hnext =>
      Nat.lt_of_le_of_ne hat.inside fun heq => hlast ⟨hnext, heq⟩
    exact iff_of_false (by simp [hgoes.isNavigating]) hlast

/-! ### What any events do -/

/-- Any events keep the entries and the draft while stepping goes on, and move its place by the
steps among them. -/
theorem steppingAt_heeds {events : List ReadEvent}
    (hat : e.history.SteppingAt entries draft place)
    (hkeeps : ∀ event ∈ events, event.keepsHistoryOn = true)
    (haccept : .acceptLine ∉ e.actions events) (hnavigates : e.Navigates events) :
    (e.heeds events).history.SteppingAt entries draft
      ((e.actions events).foldl Action.placeAfter place) := by
  -- the place is generalized, since each event moves it for the ones that follow
  induction events generalizing e place with
  | nil => exact hat
  | cons event rest ih =>
    rw [actions, List.mem_append, not_or] at haccept
    have hkeep := hkeeps event List.mem_cons_self
    have hnot : e.doneBy? event ≠ some .acceptLine := fun heq => haccept.1 (by simp [heq])
    -- a step behind the newest entry would have ended stepping, and it went on
    have hstays : e.doneBy? event = some .nextHistory → place + 1 < entries.length := by
      intro hnext
      refine Nat.lt_of_le_of_ne hat.inside fun hnewest => ?_
      have hover := (isNavigating_heed_eq_false_iff hat hkeep hnot).mpr ⟨hnext, hnewest⟩
      exact absurd (hnavigates.2.isNavigating.symm.trans hover) Bool.noConfusion
    have hrest := ih (steppingAt_heed hat hkeep hnot hstays)
      (fun event hmem => hkeeps event (List.mem_cons_of_mem _ hmem)) haccept.2 hnavigates.2
    rw [actions, List.foldl_append, heeds_cons]
    cases hdone : e.doneBy? event with
    | none => simpa [hdone] using hrest
    | some action => simpa [hdone] using hrest

end Stepping

/-- A unit of input begins stepping on a line, and stepping goes on while some events happen. They
accept no line, and the history stays switched on. -/
structure SteppingRun (e : Editor) (first : Token) (events : List ReadEvent) : Prop where
  enabled : e.history.enabled = true
  still : e.history.isNavigating = false
  begins : e.action? first = some .previousHistory
  keepsHistoryOn : ∀ event ∈ events, event.keepsHistoryOn = true
  acceptsNothing : .acceptLine ∉ (e.heed (.token first)).actions events
  navigates : (e.heed (.token first)).Navigates events

/-- What the next unit of input does where stepping stands at a place in some entries and is to come
back to a draft. -/
structure StepsFrom (e : Editor) (entries : List Text) (draft : Text) (place : Nat)
    (token : Token) : Prop where
  /-- A step back shows the next older entry, or the oldest one again. -/
  older : e.action? token = some .previousHistory →
    some (e.heed (.token token)).buffer.line = entries[place - 1]?
  /-- A step forward shows the next newer entry where there is one. -/
  newer : e.action? token = some .nextHistory → place + 1 < entries.length →
    some (e.heed (.token token)).buffer.line = entries[place + 1]?
  /-- Stepping is over after a step forward from the newest entry, and after nothing else. -/
  leaves : e.action? token ≠ some .acceptLine →
    ((e.heed (.token token)).history.isNavigating = false ↔
      e.action? token = some .nextHistory ∧ place + 1 = entries.length)
  /-- The draft is on the screen then. -/
  back : e.action? token = some .nextHistory →
    (e.heed (.token token)).history.isNavigating = false →
    (e.heed (.token token)).buffer.line = draft

theorem stepsFrom {e : Editor} {entries : List Text} {draft : Text} {place : Nat}
    (hat : e.history.SteppingAt entries draft place) (token : Token) :
    e.StepsFrom entries draft place token where
  older := older_heed hat
  newer := newer_heed hat
  leaves haccept := isNavigating_heed_eq_false_iff hat rfl haccept
  back haction hover := by
    have haccept : e.doneBy? (.token token) ≠ some .acceptLine := by simp [doneBy?, haction]
    have hlast := (isNavigating_heed_eq_false_iff hat rfl haccept).mp hover
    exact (newest_heed hat haction (Nat.le_of_eq hlast.2.symm)).1

/-- A step forward where stepping does not go on changes nothing. All that it leaves is what every
action leaves on its way. -/
theorem nextHistory_of_not_isNavigating {e : Editor} (hstill : e.history.isNavigating = false) :
    e.apply .nextHistory = (e, false) ∧
      ∀ token, e.action? token = some .nextHistory → e.take token = e.prepare .nextHistory := by
  have hsame : ∀ f : Editor, f.history = e.history → f.apply .nextHistory = (f, false) := by
    intro f hhistory
    simp [apply, nextEntry, hhistory, hstill]
  refine ⟨hsame e rfl, fun token haction => ?_⟩
  rw [take_of_action?_eq_some haction, perform, hsame (e.prepare .nextHistory) rfl]
  rfl

/-- In every session, once a step back has begun stepping it shows the newest entry, and every later
step shows the entry next to the place that the steps so far lead to, whatever was searched for and
however the recalled lines were edited. Stepping is left by a step forward from the newest entry
only, and the line is then the one that was on the screen when stepping began. Where stepping does
not go on, a step forward changes nothing. -/
theorem draft_comes_back (start : Editor) (hplace : start.history.InPlace)
    (earlier : List ReadEvent) :
    let e := start.heeds earlier
    (∀ first events token, e.SteppingRun first events →
      let f := (e.heed (.token first)).heeds events
      let steps := (e.heed (.token first)).actions events
      some (e.heed (.token first)).buffer.line = e.history.entries.getLast? ∧
        f.history.entries = e.history.entries ∧
        f.StepsFrom e.history.entries e.buffer.line
          (steps.foldl Action.placeAfter (e.history.entries.length - 1)) token) ∧
      (e.history.isNavigating = false →
        e.apply .nextHistory = (e, false) ∧
          ∀ token, e.action? token = some .nextHistory →
            e.take token = e.prepare .nextHistory) := by
  intro e
  refine ⟨?_, nextHistory_of_not_isNavigating⟩
  intro first events token hrun f steps
  obtain ⟨hhistory, hline⟩ := step_heed hrun.begins rfl
  have hbegun := hrun.navigates.isNavigating
  rw [hhistory] at hbegun
  obtain ⟨hat, hfound⟩ := History.steppingAt_look_previous hrun.enabled
    (inPlace_heeds hplace earlier) hrun.still hbegun
  have hthere : (e.heed (.token first)).history.SteppingAt e.history.entries e.buffer.line
      (e.history.entries.length - 1) := by
    rw [hhistory]
    exact hat
  have hlater := steppingAt_heeds hthere hrun.keepsHistoryOn hrun.acceptsNothing hrun.navigates
  refine ⟨?_, hlater.entries_eq, stepsFrom hlater token⟩
  have hne : e.history.entries ≠ [] := List.ne_nil_of_length_pos (Nat.zero_lt_of_lt hat.inside)
  rw [hline, look, hfound, List.getLast?_eq_some_getLast hne]
  rfl

/-- Stepping back a third time stays at the oldest of two entries. An edit of it, a search that
finds the newer one and a step forward to that same one later, another step forward brings back the
line that was being written. -/
theorem draft_comes_back_behind_two_entries :
    let history : History := (History.push { capacity := 50 } ['1']).push ['1', '2']
    let start : Editor := .new {} history (.ofMode .emacs) .enabled
    let e := start.heeds ((typed "ab").map .token)
    let events := (typed "\x1b[A\x1b[A2\x12\x1b[B").map ReadEvent.token
    let f := (e.heed (.token (.key (.plain .up)))).heeds events
    let down : Token := .key (.plain .down)
    start.history.InPlace ∧ e.SteppingRun (.key (.plain .up)) events ∧
      f.action? down = some .nextHistory ∧ (f.heed (.token down)).history.isNavigating = false ∧
      (f.heed (.token down)).buffer.line = ['a', 'b'] := by
  intro history start e events f down
  have hplace : start.history.InPlace := ⟨by decide, by decide⟩
  have hrun : e.SteppingRun (.key (.plain .up)) events :=
    ⟨by decide, by decide, by decide, by decide, by decide, by decide⟩
  have hnext : f.action? down = some .nextHistory := by decide
  have hover : (f.heed (.token down)).history.isNavigating = false := by decide
  have hsteps := ((draft_comes_back start hplace _).1 _ events down hrun).2.2
  have hline : (f.heed (.token down)).buffer.line = e.buffer.line := hsteps.back hnext hover
  exact ⟨hplace, hrun, hnext, hover, hline.trans (by decide)⟩

end Editor

end LineEditor

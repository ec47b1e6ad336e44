import LineEditor.Proofs.Frame

/-!
# What a recall does

The four actions that recall an entry look at the history in different ways, but they do the same
with what they find: they leave the history as the look left it, and put what was found in place of
the line. So a recall is told by one look at the history.

## Main definitions

* `History.look` is what each of the actions makes of the history, and what it finds there.
* `Editor.recalled?` is the line that a unit of input puts on the screen by recalling it.

## Main results

* `Editor.exists_apply_eq_putRecalled` — the four actions do the same with what they find.
* `Editor.recall_take` — a recall looks at the history once, and shows what it finds.
* `History.mem_entries_of_look` — all that is found is an entry, or else the draft.
-/

namespace LineEditor

namespace History

/-- The history when stepping begins at a line, or goes on. -/
def beginStepping (h : History) (line : Text) : History :=
  if h.isNavigating then h else h.setDraft line

/-- How a search looks at the history. -/
def lookFor (h : History) (direction : SearchDirection) (term : Text) : History × Option Text :=
  if h.enabled && !term.isEmpty then { h with direction }.search term else (h, none)

/-- How a recall looks at the history, given the line and what is to be searched for. -/
def look (h : History) (line term : Text) : Action → History × Option Text
  | .previousHistory => if h.enabled then (h.beginStepping line).previous else (h, none)
  | .nextHistory => if h.enabled && h.isNavigating then h.next else (h, none)
  | .reverseSearchHistory => h.lookFor .reverse term
  | .forwardSearchHistory => h.lookFor .forward term
  | _ => (h, none)

variable {h : History} {line term text : Text} {action : Action}

/-! ### What is found -/

theorem mem_entries_of_previous (hfound : h.previous.2 = some text) : text ∈ h.entries := by
  rw [previous] at hfound
  split at hfound
  · contradiction
  · exact List.mem_of_getElem? hfound

theorem mem_entries_of_search (hfound : (h.search term).2 = some text) : text ∈ h.entries := by
  simp only [search] at hfound
  split at hfound
  · contradiction
  · exact List.mem_of_getElem? hfound

theorem mem_entries_of_lookFor {direction : SearchDirection}
    (hfound : (h.lookFor direction term).2 = some text) : text ∈ h.entries := by
  rw [lookFor] at hfound
  split at hfound
  · exact mem_entries_of_search (h := { h with direction }) hfound
  · contradiction

theorem entries_beginStepping (h : History) (line : Text) :
    (h.beginStepping line).entries = h.entries := by
  rw [beginStepping]
  split
  · rfl
  · rfl

theorem mem_entries_of_next (hfound : h.next.2 = some text)
    (holder : h.fetch + 1 < h.entries.length) : text ∈ h.entries := by
  rw [next] at hfound
  split at hfound
  · contradiction
  · exact List.mem_of_getElem? hfound

/-- Stepping to the next newer entry gets to the draft. -/
def AtDraftNext (h : History) : Prop :=
  h.enabled = true ∧ h.isNavigating = true ∧ h.entries.length ≤ h.fetch + 1

theorem next_of_atDraftNext (hat : h.AtDraftNext) :
    h.next = ({ h with fetch := h.entries.length }, some h.draft) := by
  obtain ⟨-, hnavigating, hnewest⟩ := hat
  have hlt : h.fetch < h.entries.length := by simpa [isNavigating] using hnavigating
  have hne := List.isEmpty_eq_false_iff.mpr (List.ne_nil_of_length_pos (Nat.zero_lt_of_lt hlt))
  rw [next, hne, if_neg Bool.false_ne_true, if_neg (Nat.not_lt.mpr hnewest)]

theorem look_next_of_atDraftNext (hat : h.AtDraftNext) :
    h.look line term .nextHistory = ({ h with fetch := h.entries.length }, some h.draft) := by
  have hon : (h.enabled && h.isNavigating) = true := Bool.and_eq_true_iff.mpr ⟨hat.1, hat.2.1⟩
  rw [look, if_pos hon, next_of_atDraftNext hat]

/-- Whatever a look at the history finds is an entry, unless it steps behind the newest one. -/
theorem mem_entries_of_look (hfound : (h.look line term action).2 = some text) :
    text ∈ h.entries ∨ action = .nextHistory ∧ h.AtDraftNext ∧ text = h.draft := by
  cases action with
  | previousHistory =>
    refine .inl ?_
    rw [look] at hfound
    split at hfound
    · have hmem := mem_entries_of_previous hfound
      rwa [entries_beginStepping] at hmem
    · contradiction
  | nextHistory =>
    rw [look] at hfound
    split at hfound
    · next hon =>
      obtain ⟨henabled, hnavigating⟩ := Bool.and_eq_true_iff.mp hon
      by_cases holder : h.fetch + 1 < h.entries.length
      · exact .inl (mem_entries_of_next hfound holder)
      · have hat : h.AtDraftNext := ⟨henabled, hnavigating, Nat.not_lt.mp holder⟩
        rw [next_of_atDraftNext hat] at hfound
        exact .inr ⟨rfl, hat, (Option.some.inj hfound).symm⟩
    · contradiction
  | reverseSearchHistory => exact .inl (mem_entries_of_lookFor hfound)
  | forwardSearchHistory => exact .inl (mem_entries_of_lookFor hfound)
  | _ => contradiction

/-- The first step from behind the newest entry recalls that entry and keeps the line. -/
theorem look_previous_of_fetch_eq {newest : Text} (henabled : h.enabled = true)
    (hfetch : h.fetch = h.entries.length) (hnewest : h.entries.getLast? = some newest) :
    h.look line term .previousHistory =
      ({ h with draft := line, fetch := h.entries.length - 1 }, some newest) := by
  have hstill : h.isNavigating = false := by simp [isNavigating, hfetch]
  have hne := List.isEmpty_eq_false_iff_exists_mem.mpr ⟨newest, List.mem_of_getLast? hnewest⟩
  rw [List.getLast?_eq_getElem?] at hnewest
  rw [look, if_pos henabled, beginStepping, hstill, if_neg Bool.false_ne_true, previous]
  simp [setDraft, hne, hfetch, hnewest]

/-! ### Where stepping stands -/

theorem isNavigating_lookFor (h : History) (direction : SearchDirection) (term : Text) :
    (h.lookFor direction term).1.isNavigating = h.isNavigating ∧
      (h.lookFor direction term).1.draft = h.draft := by
  rw [lookFor]
  split
  · simp only [search]
    split
    · exact ⟨rfl, rfl⟩
    · exact ⟨rfl, rfl⟩
  · exact ⟨rfl, rfl⟩

theorem draft_previous (h : History) : h.previous.1.draft = h.draft := by
  rw [previous]
  split
  · rfl
  · rfl

theorem draft_next (h : History) : h.next.1.draft = h.draft := by
  rw [next]
  split
  · rfl
  · split
    · rfl
    · rfl

theorem isSome_previous (hthen : h.previous.1.isNavigating = true) :
    h.previous.2.isSome = true := by
  rw [previous] at hthen ⊢
  split
  · next hempty => simp_all [isNavigating]
  · next hne =>
    rw [if_neg hne] at hthen
    simpa [isNavigating] using hthen

/-- Stepping goes on after a look only if it went on before, with the same draft, or if the look
began it, with the line as the draft. -/
theorem look_of_isNavigating (hthen : (h.look line term action).1.isNavigating = true) :
    h.isNavigating = true ∧ (h.look line term action).1.draft = h.draft ∨
      h.isNavigating = false ∧ action = .previousHistory ∧
        (h.look line term action).1.draft = line ∧ (h.look line term action).2.isSome = true := by
  cases action with
  | previousHistory =>
    rw [look] at hthen ⊢
    by_cases henabled : h.enabled = true
    · rw [if_pos henabled] at hthen ⊢
      rw [draft_previous]
      have hsome := isSome_previous hthen
      -- only a step that is the first one takes the line as the draft
      cases hnavigating : h.isNavigating with
      | true => exact .inl ⟨rfl, by rw [beginStepping, if_pos hnavigating]⟩
      | false =>
        have hdraft : (h.beginStepping line).draft = line := by
          rw [beginStepping, hnavigating]
          rfl
        exact .inr ⟨rfl, rfl, hdraft, hsome⟩
    · rw [if_neg henabled] at hthen ⊢
      exact .inl ⟨hthen, rfl⟩
  | nextHistory =>
    rw [look] at hthen ⊢
    split
    · next hon => exact .inl ⟨(Bool.and_eq_true_iff.mp hon).2, h.draft_next⟩
    · next hoff =>
      rw [if_neg hoff] at hthen
      exact .inl ⟨hthen, rfl⟩
  | reverseSearchHistory =>
    obtain ⟨hsame, hdraft⟩ := h.isNavigating_lookFor .reverse term
    exact .inl ⟨hsame ▸ hthen, hdraft⟩
  | forwardSearchHistory =>
    obtain ⟨hsame, hdraft⟩ := h.isNavigating_lookFor .forward term
    exact .inl ⟨hsame ▸ hthen, hdraft⟩
  | _ => exact .inl ⟨hthen, rfl⟩

end History

namespace Editor

/-- What a recall makes of the history of an editor, and what it finds there. -/
def look (e : Editor) (action : Action) : History × Option Text :=
  e.history.look e.buffer.line (e.searchTerm.getD e.buffer.line) action

/-- The line that a unit of input puts on the screen by recalling it. -/
def recalled? (e : Editor) (token : Token) : Option Text :=
  match e.action? token with
  | some action =>
    if action.isRecall && ((e.prepare action).apply action).2 then some (e.take token).buffer.line
    else none
  | none => none

/-- The outcome shows what a look at the history has found. -/
structure Shows (e : Editor) (step : History × Option Text) (outcome : Outcome) : Prop where
  history : outcome.1.history = step.1
  line : outcome.1.buffer.line = step.2.getD e.buffer.line
  drawn : outcome.2 = step.2.isSome

section Shows

variable {e : Editor}

theorem line_replaceLine (c : Console) (t : Text) : (c.replaceLine t).buffer.line = t := by
  rw [Console.replaceLine]
  split
  · next h => exact h
  · rfl

theorem shows_putRecalled (step : History × Option Text) : e.Shows step (e.putRecalled step) := by
  rw [putRecalled]
  split
  · next h => exact ⟨rfl, by rw [h]; rfl, by rw [h]; rfl⟩
  · next t h => exact ⟨rfl, by rw [h]; exact line_replaceLine _ t, by rw [h]; rfl⟩

theorem previousEntry_eq : e.previousEntry = e.putRecalled (e.look .previousHistory) := by
  rw [look, History.look, previousEntry]
  cases e.history.enabled with
  | false => rfl
  | true => rfl

theorem nextEntry_eq : e.nextEntry = e.putRecalled (e.look .nextHistory) := by
  rw [look, History.look, nextEntry]
  cases e.history.enabled with
  | false => rfl
  | true =>
    cases e.history.isNavigating with
    | false => rfl
    | true => rfl

/-- A search notes what it looks for, or that there is nothing to look for. -/
theorem exists_searchHistory_eq (direction : SearchDirection) :
    ∃ term, e.searchHistory direction = ({ e with searchTerm := term } : Editor).putRecalled
      (e.history.lookFor direction (e.searchTerm.getD e.buffer.line)) := by
  rw [History.lookFor, searchHistory]
  cases henabled : e.history.enabled with
  | false => exact ⟨e.searchTerm, rfl⟩
  | true =>
    dsimp only
    cases (e.searchTerm.getD e.buffer.line).isEmpty with
    | true => exact ⟨none, rfl⟩
    | false =>
      refine ⟨some (e.searchTerm.getD e.buffer.line), ?_⟩
      rw [henabled]
      rfl

/-- A recall looks at the history once, and puts what it finds there in place of the line. Besides
that it may note what is searched for. -/
theorem exists_apply_eq_putRecalled {action : Action} (h : action.isRecall = true) :
    ∃ term, e.apply action =
      ({ e with searchTerm := term } : Editor).putRecalled (e.look action) := by
  cases action with
  | previousHistory => exact ⟨e.searchTerm, previousEntry_eq⟩
  | nextHistory => exact ⟨e.searchTerm, nextEntry_eq⟩
  | reverseSearchHistory => exact exists_searchHistory_eq .reverse
  | forwardSearchHistory => exact exists_searchHistory_eq .forward
  | _ => simp [Action.isRecall] at h

/-- A recall shows what one look at the history has found. -/
theorem shows_apply {action : Action} (h : action.isRecall = true) :
    e.Shows (e.look action) (e.apply action) := by
  obtain ⟨term, heq⟩ := e.exists_apply_eq_putRecalled h
  obtain ⟨hhistory, hline, hdrawn⟩ := shows_putRecalled
    (e := { e with searchTerm := term }) (e.look action)
  rw [heq]
  exact ⟨hhistory, hline, hdrawn⟩

/-- Getting ready for a recall does not change what it looks at. -/
theorem look_prepare {action : Action} (h : action.isRecall = true) :
    (e.prepare action).look action = e.look action := by
  cases action with
  | previousHistory => rfl
  | nextHistory => rfl
  | reverseSearchHistory => rfl
  | forwardSearchHistory => rfl
  | _ => simp [Action.isRecall] at h

/-- A recall looks at the history once, and puts what it finds there in place of the line. -/
theorem recall_take {token : Token} {action : Action} (haction : e.action? token = some action)
    (hrecall : action.isRecall = true) :
    (e.take token).history = (e.look action).1 ∧
      (e.take token).buffer.line = (e.look action).2.getD e.buffer.line ∧
      e.recalled? token = (e.look action).2 := by
  obtain ⟨hhistory, hline, hdrawn⟩ := shows_apply (e := e.prepare action) hrecall
  rw [look_prepare hrecall] at hhistory hline hdrawn
  have hline' : (e.take token).buffer.line = (e.look action).2.getD e.buffer.line := by
    rw [take_of_action?_eq_some haction, perform, buffer_settle]
    exact hline
  refine ⟨?_, hline', ?_⟩
  · rw [take_of_action?_eq_some haction, perform, (Edited.settle _).history_eq]
    exact hhistory
  · rw [recalled?, haction]
    dsimp only
    rw [hrecall, hdrawn, hline']
    cases (e.look action).2 with
    | none => rfl
    | some t => rfl

/-- A unit of input that recalls nothing puts no recalled line on the screen. -/
theorem recalled?_eq_none {token : Token}
    (h : ∀ action, e.action? token = some action → action.isRecall = false) :
    e.recalled? token = none := by
  rw [recalled?]
  split
  · next action haction =>
    rw [h action haction]
    rfl
  · rfl

/-- A recalled line is what a look at the history has found. -/
theorem exists_look_of_recalled? {token : Token} {line : Text}
    (h : e.recalled? token = some line) :
    ∃ action, e.action? token = some action ∧ (e.look action).2 = some line := by
  by_cases hrecall : ∃ action, e.action? token = some action ∧ action.isRecall = true
  · obtain ⟨action, haction, hrecall⟩ := hrecall
    obtain ⟨-, -, hrecalled⟩ := recall_take haction hrecall
    exact ⟨action, haction, hrecalled ▸ h⟩
  · rw [recalled?_eq_none] at h
    · contradiction
    · intro action haction
      cases hbool : action.isRecall with
      | false => rfl
      | true => exact absurd ⟨action, haction, hbool⟩ hrecall

end Shows

end Editor

end LineEditor

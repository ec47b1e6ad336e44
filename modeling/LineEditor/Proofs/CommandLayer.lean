import LineEditor.Proofs.Turn

/-!
# The cursor in the command layer

In the command layer the cursor is to rest on a character: it stands before the last character at
the latest, or at the start of an empty line. Motions stop there, and going to the layer steps back
onto a character. Of the edits some keep the cursor on a character by what they are, one looks after
it, and some forget to. A run keeps the cursor on a character exactly as long as none of these last
ones is made where it puts the cursor behind the line.

## Main definitions

* `Buffer.OnCharacter`, and `Editor.Rests` for an editor in its layer.
* `Editor.Oversteps` — the cases in which an action forgets the cursor.
* `Editor.KeepsResting` — none of these occurs while a session digests its input.

## Main results

* `Editor.rests_apply_iff` — which actions leave the cursor on a character.
* `Editor.rests_digestAll_iff` — the cursor rests on a character all along exactly if no action
  oversteps.
-/

namespace LineEditor

namespace Buffer

/-- The cursor stands on a character of the line, or at the start of the empty line. -/
def OnCharacter (b : Buffer) : Prop :=
  if b.line = [] then b.cursor = 0 else b.cursor < b.line.length

instance (b : Buffer) : Decidable b.OnCharacter :=
  inferInstanceAs (Decidable (if b.line = [] then b.cursor = 0 else b.cursor < b.line.length))

variable {b : Buffer}

theorem onCharacter_iff : b.OnCharacter ↔ b.cursor ≤ b.line.length - 1 := by
  rw [OnCharacter]
  split
  · next hline => simp [hline]
  · next hline =>
    have hpos := List.length_pos_iff.mpr hline
    omega

theorem onCharacter_of_cursor_eq_zero (h : b.cursor = 0) : b.OnCharacter :=
  onCharacter_iff.mpr (h ▸ Nat.zero_le _)

theorem OnCharacter.cursorInLine (h : b.OnCharacter) : b.CursorInLine := by
  have hcursor := onCharacter_iff.mp h
  rw [CursorInLine]
  omega

/-- A step back ends on a character, also from the end of the line. -/
theorem onCharacter_moveBack (h : b.CursorInLine) : (b.moveCursor (-1)).OnCharacter := by
  have hline : b.cursor ≤ b.line.length := h
  rw [onCharacter_iff]
  simp only [moveCursor, setCursor]
  omega

theorem onCharacter_setCursor {place : Nat} (h : place ≤ b.line.length - 1) :
    (b.setCursor place).OnCharacter :=
  onCharacter_iff.mpr (Nat.le_trans (Nat.min_le_left _ _) h)

theorem onCharacter_replace_iff (b : Buffer) (t : Text) : (b.replace t).OnCharacter ↔ t = [] := by
  rw [onCharacter_iff, ← List.length_eq_zero_iff]
  simp only [replace]
  omega

theorem onCharacter_restore_iff (b : Buffer) (s : Snapshot) :
    (b.restore s).OnCharacter ↔ ¬(s.line ≠ [] ∧ s.line.length ≤ s.cursor) := by
  rw [onCharacter_iff, ← List.length_pos_iff]
  simp only [restore, replace, setCursor]
  omega

namespace OnCharacter

variable (h : b.OnCharacter)
include h

/-- Text that is inserted leaves the cursor on the character it was on, if there was one. -/
theorem insert_iff (t : Text) : (b.insert t).OnCharacter ↔ ¬(b.line = [] ∧ t ≠ []) := by
  have hcursor := onCharacter_iff.mp h
  rw [onCharacter_iff, ← List.length_eq_zero_iff, ← List.length_pos_iff]
  simp only [insert, List.length_append, List.length_take, List.length_drop]
  omega

theorem deletePrevious (n : Nat) : (b.deletePrevious n).1.OnCharacter := by
  have hcursor := onCharacter_iff.mp h
  rw [onCharacter_iff]
  simp only [Buffer.deletePrevious, List.length_append, List.length_take, List.length_drop]
  omega

/-- What is removed before the cursor does not take the character at the cursor with it. -/
theorem deleteRange_cursor (start : Nat) : (b.deleteRange start b.cursor).1.OnCharacter := by
  have hcursor := onCharacter_iff.mp h
  rw [onCharacter_iff]
  simp only [deleteRange, List.length_append, List.length_take, List.length_drop]
  omega

/-- What is removed from the cursor on takes the character at the cursor with it. -/
theorem deleteRange_length_iff :
    (b.deleteRange b.cursor b.line.length).1.OnCharacter ↔ ¬0 < b.cursor := by
  have hcursor := onCharacter_iff.mp h
  rw [onCharacter_iff]
  simp only [deleteRange, List.length_append, List.length_take, List.length_drop]
  omega

end OnCharacter

/-- The step past a character whose case is changed goes too far at the last one. -/
theorem onCharacter_replaceChar_iff (h : b.cursor < b.line.length) (c : Char) :
    ((b.replaceChar c b.cursor).1.moveCursor 1).OnCharacter ↔
      ¬b.cursor + 1 = b.line.length := by
  rw [onCharacter_iff]
  simp only [replaceChar, moveCursor, setCursor, List.length_set]
  omega

end Buffer

namespace Console

variable {c : Console}

theorem onCharacter_deleteRange {start stop : Nat} (h : c.buffer.OnCharacter)
    (hremoved : (c.buffer.deleteRange start stop).1.OnCharacter) :
    (c.deleteRange start stop).1.buffer.OnCharacter := by
  rw [deleteRange]
  split
  · exact h
  · exact hremoved

theorem onCharacter_deleteUnseen (h : c.buffer.OnCharacter) :
    c.deleteUnseen.1.buffer.OnCharacter := by
  have hremoved : (c.buffer.deleteRange 0 c.buffer.line.length).1.OnCharacter :=
    Buffer.onCharacter_of_cursor_eq_zero (Nat.zero_min _)
  exact onCharacter_deleteRange h hremoved

theorem onCharacter_deletePrevious (h : c.buffer.OnCharacter) (n : Nat) :
    (c.deletePrevious n).1.buffer.OnCharacter := by
  rw [deletePrevious]
  split
  · exact h
  · exact h.deletePrevious n

theorem onCharacter_killToEnd_iff (h : c.buffer.OnCharacter) :
    c.killToEnd.1.buffer.OnCharacter ↔ ¬0 < c.buffer.cursor := by
  have hcursor := Buffer.onCharacter_iff.mp h
  rw [killToEnd, deleteRange]
  split
  · -- a cursor on a character has nothing to remove behind it on the empty line only
    simp only [h, true_iff]
    omega
  · exact h.deleteRange_length_iff

theorem onCharacter_insertDiscrete_iff (h : c.buffer.OnCharacter) (t : Text) :
    (c.insertDiscrete t).buffer.OnCharacter ↔ ¬(c.buffer.line = [] ∧ t ≠ []) := by
  rw [insertDiscrete]
  split
  · next hempty => simp [h, List.isEmpty_iff.mp hempty]
  · exact h.insert_iff t

theorem onCharacter_yank_iff (h : c.buffer.OnCharacter) :
    c.yank.1.buffer.OnCharacter ↔ ¬(c.buffer.line = [] ∧ ∃ t ∈ c.kills.newest?, t ≠ []) := by
  rw [yank]
  split
  · next hnone => simp [h, hnone]
  · next t hnewest =>
    rw [onCharacter_insertDiscrete_iff h]
    simp [hnewest]

theorem onCharacter_undo_iff (h : c.buffer.OnCharacter) :
    c.undo.1.buffer.OnCharacter ↔
      ¬∃ s ∈ c.undoStack.snapshots.head?, s.line ≠ [] ∧ s.line.length ≤ s.cursor := by
  cases hsnapshots : c.undoStack.snapshots with
  | nil =>
    have hkept : c.endRun.buffer.OnCharacter := h
    rw [undo_of_snapshots_eq_nil hsnapshots]
    simpa using hkept
  | cons s rest =>
    rw [undo_of_snapshots_eq_cons hsnapshots]
    simpa using c.buffer.onCharacter_restore_iff s

/-- The console when a recall has found a text, or nothing. -/
def showFound (c : Console) : Option Text → Console
  | none => c
  | some t => c.replaceLine t

/-- A recalled text has the cursor at its end, unless it is the line already. -/
theorem onCharacter_showFound_iff (h : c.buffer.OnCharacter) (found : Option Text) :
    (c.showFound found).buffer.OnCharacter ↔ ¬∃ t ∈ found, t ≠ [] ∧ t ≠ c.buffer.line := by
  cases found with
  | none => simpa [showFound] using h
  | some t =>
    rw [showFound, replaceLine]
    split
    · next hsame => simp [h, hsame]
    · next hother =>
      have hreplaced : (c.snapshot.onBuffer (·.replace t)).buffer.OnCharacter ↔ t = [] :=
        c.buffer.onCharacter_replace_iff t
      simp [hreplaced, Ne.symm hother]

end Console

/-- The actions that go to a layer. -/
def Action.changesLayer : Action → Bool
  | viMovementMode | viInsertMode | viAppendMode | viInsertBeginningOfLine
  | viAppendEndOfLine => true
  | _ => false

namespace Editor

/-- In the command layer the cursor is on a character. -/
def Rests (e : Editor) : Prop :=
  e.layer = .command → e.buffer.OnCharacter

instance (e : Editor) : Decidable e.Rests :=
  inferInstanceAs (Decidable (_ → _))

/-- The text that is inserted of what a completer found; none where the candidates are listed. -/
def offered (r : CompletionRequest) : Text :=
  match r.formattedCandidates with
  | [only] => insertedForm r only ++ if r.appendSeparator then [r.separator] else []
  | several => insertedForm r (if r.ignoreStartsWith then [] else Text.commonStart several)

/-- The cases in which an action of the command layer puts a cursor that was on a character behind
the line: the last character has its case changed, or all from a character on is removed and
something stays before it, or a text is inserted where there is none, or a snapshot with the cursor
at the end of its line is restored, or another line is recalled. -/
def Oversteps (e : Editor) : Action → Prop
  | .changeCaseChar => e.buffer.cursor + 1 = e.buffer.line.length
  | .killLine => 0 < e.buffer.cursor
  | .yank => e.buffer.line = [] ∧ ∃ t ∈ e.console.kills.newest?, t ≠ []
  | .complete =>
    e.buffer.line = [] ∧
      ∃ r ∈ Completer.firstAnswer? e.completers e.buffer.line e.buffer.cursor, offered r ≠ []
  | .undo => ∃ s ∈ e.console.undoStack.snapshots.head?, s.line ≠ [] ∧ s.line.length ≤ s.cursor
  | action => ∃ t ∈ (e.look action).2, t ≠ [] ∧ t ≠ e.buffer.line

instance decidableOversteps (e : Editor) : (action : Action) → Decidable (e.Oversteps action)
  | .changeCaseChar => inferInstanceAs (Decidable (_ = _))
  | .killLine => inferInstanceAs (Decidable (_ < _))
  | .yank | .complete => inferInstanceAs (Decidable (_ ∧ _))
  | .undo => inferInstanceAs (Decidable (∃ s ∈ e.console.undoStack.snapshots.head?, _ ∧ _))
  | .acceptLine | .deleteChar | .backwardDeleteChar | .unixLineDiscard | .backwardKillWord
  | .forwardChar | .backwardChar | .forwardWord | .backwardWord | .beginningOfLine | .endOfLine
  | .previousHistory | .nextHistory | .reverseSearchHistory | .forwardSearchHistory
  | .viMovementMode | .viInsertMode | .viAppendMode | .viInsertBeginningOfLine
  | .viAppendEndOfLine => inferInstanceAs (Decidable (∃ t ∈ (e.look _).2, _ ∧ _))

/-- A unit of input performs an action of the command layer that oversteps. -/
def OverstepsAt (e : Editor) (token : Token) : Prop :=
  e.layer = .command ∧ ∃ action ∈ e.action? token, e.Oversteps action

instance (e : Editor) (token : Token) : Decidable (e.OverstepsAt token) :=
  inferInstanceAs (Decidable (_ ∧ _))

/-- No action oversteps while a session digests the units of input. -/
def KeepsResting : Editor → List Token → Prop
  | _, [] => True
  | e, token :: rest => ¬e.OverstepsAt token ∧ KeepsResting (e.digest token).1 rest

instance decidableKeepsResting :
    (e : Editor) → (tokens : List Token) → Decidable (e.KeepsResting tokens)
  | _, [] => inferInstanceAs (Decidable True)
  | e, token :: rest =>
    have := decidableKeepsResting (e.digest token).1 rest
    inferInstanceAs (Decidable (_ ∧ _))

section Apply

variable {e : Editor}

theorem Rests.of_onCharacter (h : e.buffer.OnCharacter) : e.Rests :=
  fun _ => h

theorem Rests.of_layer_eq_insert (h : e.layer = .insert) : e.Rests := by
  intro hlayer
  rw [h] at hlayer
  contradiction

theorem rests_iff_of_layer_eq_command (h : e.layer = .command) :
    e.Rests ↔ e.buffer.OnCharacter :=
  ⟨fun hrests => hrests h, Rests.of_onCharacter⟩

/-! ### The layer -/

theorem layer_restOnCharacter : e.restOnCharacter.layer = e.layer := by
  rw [restOnCharacter]
  split
  · split
    · rfl
    · rfl
  · rfl

theorem layer_deleteChar : e.deleteChar.1.layer = e.layer := by
  rw [deleteChar]
  split
  · rfl
  · dsimp only
    split
    · exact layer_restOnCharacter
    · rfl

theorem layer_backwardDeleteChar : e.backwardDeleteChar.1.layer = e.layer := by
  rw [backwardDeleteChar]
  split
  · rfl
  · rfl

theorem layer_changeCase : e.changeCase.1.layer = e.layer := by
  rw [changeCase]
  split
  · rfl
  · rfl

theorem layer_offer (r : CompletionRequest) : (e.offer r).layer = e.layer := by
  rw [offer]
  split
  · rfl
  · generalize (if r.ignoreStartsWith then [] else Text.commonStart _) = common
    dsimp only
    split
    · rfl
    · rfl

theorem layer_complete : e.complete.1.layer = e.layer := by
  rw [complete]
  split
  · rfl
  · exact layer_offer _

theorem layer_putRecalled (step : History × Option Text) :
    (e.putRecalled step).1.layer = e.layer := by
  rw [putRecalled]
  split
  · rfl
  · rfl

theorem layer_apply_of_isRecall {action : Action} (h : action.isRecall = true) :
    (e.apply action).1.layer = e.layer := by
  obtain ⟨term, heq⟩ := e.exists_apply_eq_putRecalled h
  rw [heq]
  exact layer_putRecalled (e := { e with searchTerm := term }) _

theorem layer_acceptLine : e.acceptLine.1.layer = e.layer :=
  (congrArg Editor.layer e.entered_acceptLine.rest :)

theorem layer_apply {action : Action} (h : action.changesLayer = false) :
    (e.apply action).1.layer = e.layer := by
  cases action with
  | acceptLine => exact layer_acceptLine
  | deleteChar => exact layer_deleteChar
  | backwardDeleteChar => exact layer_backwardDeleteChar
  | changeCaseChar => exact layer_changeCase
  | previousHistory | nextHistory | reverseSearchHistory | forwardSearchHistory =>
    exact layer_apply_of_isRecall rfl
  | complete => exact layer_complete
  | viMovementMode | viInsertMode | viAppendMode | viInsertBeginningOfLine
  | viAppendEndOfLine => contradiction
  | _ => rfl

/-! ### The actions -/

theorem onCharacter_moveTo (hlayer : e.layer = .command) (place : Nat) :
    (e.moveTo place).1.buffer.OnCharacter := by
  have hlast : e.lastPlace = e.buffer.line.length - 1 := by rw [lastPlace, hlayer]
  have hplace : min place e.lastPlace ≤ e.buffer.line.length - 1 := hlast ▸ Nat.min_le_right _ _
  exact Buffer.onCharacter_setCursor hplace

/-- Of the removals that leave the cursor at the end of the line, this one looks after it. -/
theorem onCharacter_restOnCharacter (hlayer : e.layer = .command) (h : e.buffer.CursorInLine) :
    e.restOnCharacter.buffer.OnCharacter := by
  have hline : e.buffer.cursor ≤ e.buffer.line.length := h
  rw [restOnCharacter, hlayer]
  dsimp only
  split
  · exact Buffer.onCharacter_moveBack h
  · rw [Buffer.onCharacter_iff]
    omega

theorem onCharacter_deleteChar (hlayer : e.layer = .command) (h : e.buffer.OnCharacter) :
    e.deleteChar.1.buffer.OnCharacter := by
  rw [deleteChar]
  split
  · exact Console.onCharacter_deleteUnseen h
  · by_cases hend : e.buffer.line.length ≤ e.buffer.cursor
    · rw [removing_deleteForward_of_le hend]
      exact h
    · rw [removing_deleteForward_of_lt (Nat.not_le.mp hend)]
      exact onCharacter_restOnCharacter hlayer (h.cursorInLine.deleteForward 1)

theorem onCharacter_backwardDeleteChar (h : e.buffer.OnCharacter) :
    e.backwardDeleteChar.1.buffer.OnCharacter := by
  rw [backwardDeleteChar]
  split
  · exact Console.onCharacter_deleteUnseen h
  · exact Console.onCharacter_deletePrevious h 1

theorem onCharacter_changeCase_iff (h : e.buffer.OnCharacter) :
    e.changeCase.1.buffer.OnCharacter ↔ ¬e.Oversteps .changeCaseChar := by
  cases hcharacter : e.buffer.line[e.buffer.cursor]? with
  | none =>
    have hend : e.buffer.line.length ≤ e.buffer.cursor := List.getElem?_eq_none_iff.mp hcharacter
    have hnot : ¬e.Oversteps .changeCaseChar := by
      rw [Oversteps]
      omega
    rw [changeCase_of_eq_none hcharacter]
    exact iff_of_true h hnot
  | some ch =>
    have hlt : e.buffer.cursor < e.buffer.line.length :=
      (List.getElem?_eq_some_iff.mp hcharacter).1
    rw [changeCase_of_eq_some hcharacter]
    exact Buffer.onCharacter_replaceChar_iff hlt (Unicode.toggleCase ch)

/-- Where several candidates have nothing in common, it makes no difference to the line that they
are listed. -/
theorem buffer_offer_common (r : CompletionRequest) (common : Text) :
    (if common.isEmpty then e.listCandidates r.candidates
      else e.onConsole (·.insertDiscrete (insertedForm r common))).buffer =
      (e.console.insertDiscrete (insertedForm r common)).buffer := by
  split
  · next hnone =>
    have hempty : insertedForm r common = [] := by
      rw [List.isEmpty_iff.mp hnone, insertedForm]
      split
      · rfl
      · rfl
    rw [hempty]
    rfl
  · rfl

theorem buffer_offer (r : CompletionRequest) :
    (e.offer r).buffer = (e.console.insertDiscrete (offered r)).buffer := by
  rw [offer, offered]
  rcases r.formattedCandidates with _ | ⟨only, _ | ⟨second, rest⟩⟩
  · exact buffer_offer_common r _
  · rfl
  · exact buffer_offer_common r _

theorem onCharacter_complete_iff (h : e.buffer.OnCharacter) :
    e.complete.1.buffer.OnCharacter ↔ ¬e.Oversteps .complete := by
  simp only [complete, Oversteps]
  split
  · next hnone => simp [h, hnone]
  · next r hsome =>
    dsimp only
    rw [buffer_offer, Console.onCharacter_insertDiscrete_iff h]
    simp [hsome]
    rfl

/-! ### Recalls -/

theorem console_putRecalled (step : History × Option Text) :
    (e.putRecalled step).1.console = e.console.showFound step.2 := by
  rw [putRecalled]
  split
  · next h => rw [h]; rfl
  · next h => rw [h]; rfl

theorem console_apply_of_isRecall {action : Action} (h : action.isRecall = true) :
    (e.apply action).1.console = e.console.showFound (e.look action).2 := by
  obtain ⟨term, heq⟩ := e.exists_apply_eq_putRecalled h
  rw [heq]
  exact console_putRecalled (e := { e with searchTerm := term }) _

theorem onCharacter_apply_of_isRecall_iff {action : Action} (hrecall : action.isRecall = true)
    (h : e.buffer.OnCharacter) :
    (e.apply action).1.buffer.OnCharacter ↔
      ¬∃ t ∈ (e.look action).2, t ≠ [] ∧ t ≠ e.buffer.line := by
  rw [buffer, console_apply_of_isRecall hrecall]
  exact Console.onCharacter_showFound_iff h _

/-! ### Every action -/

theorem onCharacter_acceptLine : e.acceptLine.1.buffer.OnCharacter := by
  rw [e.entered_acceptLine.buffer]
  cases e.ending with
  | masked | complete | comment | escaped | openQuote =>
    exact Buffer.onCharacter_of_cursor_eq_zero rfl

/-- From a character on, an action of the command layer leaves the cursor on a character or goes to
the insert layer, except where it oversteps. -/
theorem rests_apply_iff (hlayer : e.layer = .command) (h : e.buffer.OnCharacter) (action : Action) :
    (e.apply action).1.Rests ↔ ¬e.Oversteps action := by
  -- of an action that is not named among the cases, `Oversteps` asks what it recalls
  have hnone : ¬∃ t ∈ (none : Option Text), t ≠ [] ∧ t ≠ e.buffer.line := by simp
  have hstays (hchanges : action.changesLayer = false) :
      (e.apply action).1.Rests ↔ (e.apply action).1.buffer.OnCharacter :=
    rests_iff_of_layer_eq_command ((layer_apply hchanges).trans hlayer)
  cases action with
  | changeCaseChar => exact (hstays rfl).trans (onCharacter_changeCase_iff h)
  | killLine => exact (hstays rfl).trans (Console.onCharacter_killToEnd_iff h)
  | yank => exact (hstays rfl).trans (Console.onCharacter_yank_iff h)
  | complete => exact (hstays rfl).trans (onCharacter_complete_iff h)
  | undo => exact (hstays rfl).trans (Console.onCharacter_undo_iff h)
  | previousHistory | nextHistory | reverseSearchHistory | forwardSearchHistory =>
    exact (hstays rfl).trans (onCharacter_apply_of_isRecall_iff rfl h)
  | acceptLine => exact iff_of_true (.of_onCharacter onCharacter_acceptLine) hnone
  | deleteChar => exact iff_of_true (.of_onCharacter (onCharacter_deleteChar hlayer h)) hnone
  | backwardDeleteChar =>
    exact iff_of_true (.of_onCharacter (onCharacter_backwardDeleteChar h)) hnone
  | unixLineDiscard =>
    have hremoved : (e.buffer.deleteRange 0 e.buffer.cursor).1.OnCharacter :=
      h.deleteRange_cursor 0
    exact iff_of_true (.of_onCharacter (Console.onCharacter_deleteRange h hremoved)) hnone
  | backwardKillWord =>
    have hremoved := h.deleteRange_cursor (e.buffer.cursor -
      Text.firstWordEnd (· ≠ ' ') (e.buffer.line.take e.buffer.cursor).reverse)
    exact iff_of_true (.of_onCharacter (Console.onCharacter_deleteRange h hremoved)) hnone
  | forwardChar | backwardChar | forwardWord | backwardWord | beginningOfLine | endOfLine =>
    exact iff_of_true (.of_onCharacter (onCharacter_moveTo hlayer _)) hnone
  | viMovementMode =>
    have hkept : e.enterCommandLayer = (e, false) := by rw [enterCommandLayer, hlayer]
    refine iff_of_true (.of_onCharacter ?_) hnone
    rw [apply, hkept]
    exact h
  | viInsertMode | viAppendMode | viInsertBeginningOfLine | viAppendEndOfLine =>
    exact iff_of_true (.of_layer_eq_insert rfl) hnone

/-- Going to the command layer steps back onto a character, and no other action goes there. -/
theorem rests_apply_of_layer_eq_insert (hlayer : e.layer = .insert) (h : e.buffer.CursorInLine)
    (action : Action) : (e.apply action).1.Rests := by
  cases hchanges : action.changesLayer with
  | false => exact .of_layer_eq_insert ((layer_apply hchanges).trans hlayer)
  | true =>
    cases action with
    | viMovementMode =>
      refine .of_onCharacter ?_
      rw [apply, enterCommandLayer, hlayer]
      exact Buffer.onCharacter_moveBack h
    | viInsertMode | viAppendMode | viInsertBeginningOfLine | viAppendEndOfLine =>
      exact .of_layer_eq_insert rfl
    | _ => contradiction

end Apply

/-! ### Runs -/

section Run

variable {e : Editor} {token : Token}

theorem rests_settle_iff (outcome : Outcome) : (settle outcome).Rests ↔ outcome.1.Rests := by
  rw [settle]
  split
  · exact Iff.rfl
  · exact Iff.rfl

theorem oversteps_iff_of_isRecall {action : Action} (h : action.isRecall = true) :
    e.Oversteps action ↔ ∃ t ∈ (e.look action).2, t ≠ [] ∧ t ≠ e.buffer.line := by
  cases action with
  | previousHistory | nextHistory | reverseSearchHistory | forwardSearchHistory => exact Iff.rfl
  | _ => contradiction

/-- Getting ready for an action does not change whether it oversteps. -/
theorem oversteps_prepare_iff (action : Action) :
    (e.prepare action).Oversteps action ↔ e.Oversteps action := by
  cases hrecall : action.isRecall with
  | true =>
    rw [oversteps_iff_of_isRecall hrecall, oversteps_iff_of_isRecall hrecall, look_prepare hrecall]
    exact Iff.rfl
  | false =>
    cases action with
    | previousHistory | nextHistory | reverseSearchHistory | forwardSearchHistory => contradiction
    | _ => exact Iff.rfl

/-- Without an action a unit of input does nothing in the command layer, and types in the other. -/
theorem rests_take_of_action?_eq_none (haction : e.action? token = none) (h : e.Rests) :
    (e.take token).Rests := by
  cases token with
  | paste t =>
    rw [take, insertPaste]
    split
    · exact h
    · next hlayer =>
      split
      · exact h
      · exact .of_layer_eq_insert hlayer
  | key k =>
    rw [take, press]
    split
    · -- the key is bound to a name that belongs to no action
      next name hname =>
      have hnone : Action.ofName? name = none := by simpa [action?, hname] using haction
      rw [performNamed, hnone]
      exact h
    · split
      · next hlayer _ => exact .of_layer_eq_insert hlayer
      · exact h

/-- What one unit of input makes of a cursor that rests on a character. -/
theorem rests_take_iff (hcursor : e.buffer.CursorInLine) (h : e.Rests) :
    (e.take token).Rests ↔ ¬e.OverstepsAt token := by
  cases haction : e.action? token with
  | none =>
    have hnot : ¬e.OverstepsAt token := by simp [OverstepsAt, haction]
    exact iff_of_true (rests_take_of_action?_eq_none haction h) hnot
  | some action =>
    rw [take_of_action?_eq_some haction, perform, rests_settle_iff]
    cases hlayer : e.layer with
    | insert =>
      have hnot : ¬e.OverstepsAt token := by simp [OverstepsAt, hlayer]
      have hrests : ((e.prepare action).apply action).1.Rests :=
        rests_apply_of_layer_eq_insert (e := e.prepare action) hlayer hcursor action
      exact iff_of_true hrests hnot
    | command =>
      have honly : e.OverstepsAt token ↔ e.Oversteps action := by
        simp [OverstepsAt, hlayer, haction]
      rw [honly, ← oversteps_prepare_iff]
      exact rests_apply_iff (e := e.prepare action) hlayer (h hlayer) action

theorem not_oversteps_acceptLine : ¬e.Oversteps .acceptLine := by
  rintro ⟨t, ht, -⟩
  exact absurd ht (Option.not_mem_none t)

theorem rests_digest_iff (hcursor : e.buffer.CursorInLine) (h : e.Rests) :
    (e.digest token).1.Rests ↔ ¬e.OverstepsAt token := by
  cases haccepted : (e.forgetAccepted.take token).accepted with
  | none =>
    rw [digest_of_accepted_eq_none haccepted]
    exact rests_take_iff (e := e.forgetAccepted) hcursor h
  | some line =>
    -- an accepted line leads to the insert layer, and Enter never oversteps
    obtain ⟨haction, -, -⟩ :=
      (accepted_take_eq_some_iff (accepted_forgetAccepted e)).mp haccepted
    have henter : e.action? token = some .acceptLine := haction
    have hnot : ¬e.OverstepsAt token := by
      rintro ⟨-, action, hmem, hoversteps⟩
      rw [henter, Option.mem_some_iff] at hmem
      exact not_oversteps_acceptLine (hmem ▸ hoversteps)
    rw [digest_of_accepted_eq_some haccepted]
    exact iff_of_true (.of_layer_eq_insert rfl) hnot

/-- A cursor that rests on a character goes on doing so exactly as long as no action oversteps. -/
theorem rests_digestAll_iff_of_rests {tokens : List Token} (hcursor : e.buffer.CursorInLine)
    (h : e.Rests) :
    (∀ before, before <+: tokens → (e.digestAll before).1.Rests) ↔ e.KeepsResting tokens := by
  induction tokens generalizing e with
  | nil =>
    refine iff_of_true ?_ trivial
    intro before hbefore
    rw [List.prefix_nil.mp hbefore]
    exact h
  | cons token rest ih =>
    -- only from a cursor that rests on a character is it known what the rest of the input does
    have hstep : (e.digest token).1.Rests ↔ ¬e.OverstepsAt token := rests_digest_iff hcursor h
    have hlater (hrests : (e.digest token).1.Rests) :
        (∀ before, before <+: rest → ((e.digest token).1.digestAll before).1.Rests) ↔
          (e.digest token).1.KeepsResting rest :=
      ih (cursorInLine_digest hcursor) hrests
    constructor
    · intro hall
      have hafter (before : List Token) (hbefore : before <+: rest) :
          ((e.digest token).1.digestAll before).1.Rests :=
        hall (token :: before) (List.cons_prefix_cons.mpr ⟨rfl, hbefore⟩)
      have hrests : (e.digest token).1.Rests := hafter [] List.nil_prefix
      exact ⟨hstep.mp hrests, (hlater hrests).mp hafter⟩
    · rintro ⟨hnot, hkeeps⟩ before hbefore
      cases before with
      | nil => exact h
      | cons first before =>
        obtain ⟨rfl, hrest⟩ := List.cons_prefix_cons.mp hbefore
        exact (hlater (hstep.mpr hnot)).mpr hkeeps before hrest

end Run

/-- In a session that starts in the insert layer the cursor of the command layer rests on a
character of the line, or stands at the start of the empty line, after every unit of input, exactly
if no action is performed where it oversteps. -/
theorem rests_digestAll_iff (e : Editor) (tokens : List Token) (hlayer : e.layer = .insert)
    (hcursor : e.buffer.CursorInLine) :
    (∀ before, before <+: tokens → (e.digestAll before).1.Rests) ↔ e.KeepsResting tokens :=
  rests_digestAll_iff_of_rests hcursor (.of_layer_eq_insert hlayer)

/-- A change of case and removals in the middle of a line, a kill at its start with the undo of it,
a text that is put in front of a character, more typing behind it, and the next line. -/
theorem rests_digestAll_iff_mixed :
    let e : Editor := .new {} { capacity := 50 } (.ofMode .vi) .enabled
    let tokens := ["abc", "\x1b", "0~x0DuphXA d", "\x1b", "\rx", "\x1b"].flatMap typed
    e.layer = .insert ∧ e.buffer.CursorInLine ∧ e.KeepsResting tokens ∧
      (e.digestAll tokens).2 = ["cAc d".toList] ∧
      ∀ before, before <+: tokens → (e.digestAll before).1.Rests := by
  intro e tokens
  have hcursor : e.buffer.CursorInLine := Nat.le_refl 0
  have hkeeps : e.KeepsResting tokens := by decide
  exact ⟨rfl, hcursor, hkeeps, by decide, (rests_digestAll_iff e tokens rfl hcursor).mpr hkeeps⟩

/-- The ways to leave the cursor behind the line: to remove all from a character on that is not the
first one, to change the case of the last character, to recall an entry, to undo what was typed at
the end of the line, and to put back a line that was removed. -/
theorem cursor_behind_line_of_commands :
    let e : Editor := .new {} (History.push { capacity := 50 } "ls".toList) (.ofMode .vi) .enabled
    ∀ commands ∈ [["D"], ["~"], ["k"], ["A!", "\x1b", "u"], ["0Dp"]],
      let after := (e.digestAll ((["abc", "\x1b"] ++ commands).flatMap typed)).1
      after.layer = .command ∧ after.buffer.line ≠ [] ∧
        after.buffer.cursor = after.buffer.line.length := by
  decide

end Editor

end LineEditor

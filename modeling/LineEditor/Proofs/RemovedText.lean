import LineEditor.Proofs.Operations
import LineEditor.Proofs.Retention

/-!
# Removed text is kept

Each operation that takes text out of the line names the places between which it does so, and takes
out what there is between them. So there is one account for all of them: what stood in front of the
text and behind it comes together, the cursor goes to where the text was, and the text goes into the
kill ring. As long as that is the newest text there, it can be put back.

## Main definitions

* `Console.TakesOut` — the text between two places was taken out of the line.
* `Console.removedTexts` are the texts that the operations of a run took out, in order.

## Main results

* `Console.takesOut_perform` — what the operations do that take out text.
* `Console.kills_perform` — nothing else goes into the kill ring.
* `Console.yank_of_takesOut` — text that was taken out is put back by a yank.
* `Console.kills_eq_removedTexts` — the kill ring after any operations, and a yank after a removal.
-/

namespace LineEditor

namespace Console

/-- The text between two places is taken out of the line and put into the kill ring, with the cursor
where it was, and its characters are counted. Where there is none, the buffer stays as it is. -/
structure TakesOut (c : Console) (start stop : Nat) (outcome : Console × Nat) : Prop where
  count : outcome.2 = (c.buffer.line.extract start stop).length
  kills : outcome.1.kills = c.kills.add (c.buffer.line.extract start stop)
  kept : c.buffer.line.extract start stop = [] → outcome.1.buffer = c.buffer
  cut : c.buffer.line.extract start stop ≠ [] → outcome.1.buffer = { c.buffer with
    line := c.buffer.line.take start ++ c.buffer.line.drop stop, cursor := start }

section TakesOut

variable {c : Console}

/-- An operation that finds nothing between the places, and does nothing. -/
theorem takesOut_nothing {start stop : Nat} (hnone : c.buffer.line.extract start stop = []) :
    c.TakesOut start stop (c, 0) where
  count := by rw [hnone]; rfl
  kills := by rw [hnone]; rfl
  kept := fun _ => rfl
  cut := fun hsome => absurd hnone hsome

/-- A removal takes out the text between two places if the buffer does. -/
theorem takesOut_remove {start stop : Nat} {edit : Buffer → Buffer × Text}
    (hremoved : (edit c.buffer).2 = c.buffer.line.extract start stop)
    (hbuffer : (edit c.buffer).1 = { c.buffer with
      line := c.buffer.line.take start ++ c.buffer.line.drop stop, cursor := start })
    (hkept : c.buffer.line.extract start stop = [] → (edit c.buffer).1 = c.buffer) :
    c.TakesOut start stop (c.remove edit) where
  count := congrArg List.length hremoved
  kills := congrArg c.kills.add hremoved
  kept := hkept
  cut := fun _ => hbuffer

theorem takesOut_deleteForward (c : Console) (n : Nat) :
    c.TakesOut c.buffer.cursor (c.buffer.cursor + n) (c.deleteForward n) := by
  rw [deleteForward]
  split
  · next hend => exact takesOut_nothing (extract_eq_nil_iff.mpr (.inr hend))
  · next hmore =>
    refine takesOut_remove ?_ rfl ?_
    · rw [List.extract, Nat.add_sub_cancel_left]
      rfl
    · intro hnone
      -- only if no character is asked for there is none
      have hzero : n = 0 := by
        have hrange := extract_eq_nil_iff.mp hnone
        omega
      rw [Buffer.deleteForward, hzero, Nat.add_zero, List.take_append_drop]

theorem takesOut_deletePrevious (h : c.buffer.CursorInLine) (n : Nat) :
    c.TakesOut (c.buffer.cursor - n) c.buffer.cursor (c.deletePrevious n) := by
  rw [deletePrevious]
  split
  · next hstart => exact takesOut_nothing (extract_eq_nil_iff.mpr (.inl (by omega)))
  · next hmore =>
    refine takesOut_remove ?_ rfl ?_
    · rw [List.extract, ← List.drop_take]
      rfl
    · intro hnone
      have hline : c.buffer.cursor ≤ c.buffer.line.length := h
      have hzero : n = 0 := by
        have hrange := extract_eq_nil_iff.mp hnone
        omega
      rw [Buffer.deletePrevious, hzero, Nat.sub_zero, List.take_append_drop]

theorem takesOut_deleteRange (c : Console) (start stop : Nat) :
    c.TakesOut start stop (c.deleteRange start stop) := by
  rw [deleteRange]
  split
  · next hnone => exact takesOut_nothing (extract_eq_nil_iff.mpr hnone)
  · next hsome =>
    -- the places are cut short at the end of the line, which the first one does not reach
    have hstart : min start (min stop c.buffer.line.length) = start := by omega
    refine takesOut_remove ?_ ?_ fun hnone => absurd (extract_eq_nil_iff.mp hnone) hsome
    · rw [← extract_min, List.extract, ← List.drop_take, Buffer.deleteRange, hstart]
    · rw [Buffer.deleteRange, hstart, ← List.drop_eq_drop_min]

/-- What the operations do that take out text. -/
theorem takesOut_perform (h : c.buffer.CursorInLine) {op : ConsoleOp} {start stop : Nat}
    (hrange : op.range? c.buffer = some (start, stop)) :
    ∃ n, (c.perform op).2 = .removed n ∧ c.TakesOut start stop ((c.perform op).1, n) := by
  cases op with
  | deleteForward n =>
    cases hrange
    exact ⟨_, rfl, takesOut_deleteForward c n⟩
  | deletePrevious n =>
    cases hrange
    exact ⟨_, rfl, takesOut_deletePrevious h n⟩
  | deleteRange start stop =>
    cases hrange
    exact ⟨_, rfl, takesOut_deleteRange c start stop⟩
  | killToEnd =>
    cases hrange
    exact ⟨_, rfl, takesOut_deleteRange c _ _⟩
  | killToStart =>
    cases hrange
    exact ⟨_, rfl, takesOut_deleteRange c _ _⟩
  | deleteLine =>
    cases hrange
    exact ⟨_, rfl, takesOut_deleteRange c _ _⟩
  | deleteUnseen =>
    cases hrange
    have hline : c.TakesOut 0 c.buffer.line.length c.deleteLine := takesOut_deleteRange c _ _
    exact ⟨_, rfl, hline.count, hline.kills, hline.kept, hline.cut⟩
  | _ => contradiction

/-- Only an operation that takes out text answers how much it was. -/
theorem exists_range_of_removed {op : ConsoleOp} {n : Nat} (h : (c.perform op).2 = .removed n) :
    ∃ start stop, op.range? c.buffer = some (start, stop) := by
  cases op with
  | deleteForward | deletePrevious | deleteRange | killToEnd | killToStart | deleteLine
  | deleteUnseen => exact ⟨_, _, rfl⟩
  | _ => contradiction

theorem kills_insert (c : Console) (t : Text) : (c.insert t).kills = c.kills := by
  rw [insert]
  split
  · rfl
  · rfl

theorem kills_insertDiscrete (c : Console) (t : Text) : (c.insertDiscrete t).kills = c.kills := by
  rw [insertDiscrete]
  split
  · rfl
  · rfl

theorem kills_replaceChar (c : Console) (ch : Char) (pos : Nat) :
    (c.replaceChar ch pos).1.kills = c.kills := by
  rw [replaceChar]
  split
  · rfl
  · rfl

theorem kills_replaceLine (c : Console) (t : Text) : (c.replaceLine t).kills = c.kills := by
  rw [replaceLine]
  split
  · rfl
  · rfl

theorem kills_yank (c : Console) : c.yank.1.kills = c.kills := by
  rw [yank]
  split
  · rfl
  · exact kills_insertDiscrete c _

/-- What an operation takes out of the line goes into the kill ring, and nothing else does. -/
theorem kills_perform (h : c.buffer.CursorInLine) (op : ConsoleOp) :
    (c.perform op).1.kills = c.kills.add (op.removed c.buffer) := by
  cases hrange : op.range? c.buffer with
  | some range =>
    obtain ⟨n, -, htaken⟩ := takesOut_perform h hrange
    rw [ConsoleOp.removed_eq hrange]
    exact htaken.kills
  | none =>
    rw [ConsoleOp.removed, hrange]
    cases op with
    | insert t => exact kills_insert c t
    | insertDiscrete t => exact kills_insertDiscrete c t
    | replaceChar ch pos => exact kills_replaceChar c ch pos
    | replaceLine t => exact kills_replaceLine c t
    | yank => exact kills_yank c
    | onBuffer | endRun | undo | clearUndo | reset | draw | write | takeOutput => rfl
    | deleteForward | deletePrevious | deleteRange | killToEnd | killToStart | deleteLine
    | deleteUnseen => contradiction

/-- Text that was taken out is the newest one in the kill ring, and a yank puts it back: the buffer
is as it was, but for the cursor, which stands behind the text. -/
theorem yank_of_takesOut {start stop : Nat} {outcome : Console × Nat}
    (h : c.TakesOut start stop outcome) (hsome : c.buffer.line.extract start stop ≠ []) :
    outcome.1.kills.newest? = some (c.buffer.line.extract start stop) ∧
      outcome.1.yank.2 = true ∧
      outcome.1.yank.1.buffer = { c.buffer with cursor := start + outcome.2 } := by
  have hnewest : outcome.1.kills.newest? = some (c.buffer.line.extract start stop) := by
    rw [h.kills, KillRing.newest?_add hsome]
  have hrange : ¬(stop ≤ start ∨ c.buffer.line.length ≤ start) :=
    fun hrange => hsome (extract_eq_nil_iff.mpr hrange)
  have hfront : (c.buffer.line.take start).length = start := by
    rw [List.length_take]
    omega
  have hyank : outcome.1.yank =
      (outcome.1.insertDiscrete (c.buffer.line.extract start stop), true) := by
    rw [yank, hnewest]
  have hinsert : (outcome.1.insertDiscrete (c.buffer.line.extract start stop)).buffer =
      outcome.1.buffer.insert (c.buffer.line.extract start stop) := by
    rw [insertDiscrete, if_neg (by simpa using hsome)]
    rfl
  rw [hyank]
  refine ⟨hnewest, rfl, ?_⟩
  -- the text goes in between what stood on its two sides
  rw [hinsert, h.cut hsome, h.count, Buffer.insert, List.take_left' hfront, List.drop_left' hfront,
    take_append_extract_append_drop (by omega)]

end TakesOut

/-- The texts that the operations of a run take out of the line, in order; empty where one takes out
nothing. -/
def removedTexts (c : Console) (ops : List ConsoleOp) : List Text :=
  (c.moments ops).map fun moment => moment.op.removed moment.console.buffer

end Console

/-- Of the texts that are added the newest ten stay, not counting empty ones. -/
theorem KillRing.entries_add {r : KillRing} {texts : List Text}
    (h : r.entries = (texts.filter (!·.isEmpty)).rtake 10) (t : Text) :
    (r.add t).entries = ((texts ++ [t]).filter (!·.isEmpty)).rtake 10 := by
  rw [List.filter_append, add]
  cases hempty : t.isEmpty with
  | true =>
    rw [if_pos rfl, List.filter_singleton, hempty]
    exact h.trans (congrArg (List.rtake · 10) (List.append_nil _).symm)
  | false =>
    rw [if_neg Bool.false_ne_true, List.filter_singleton, hempty, h]
    exact rtake_rtake_concat (by decide) _ t

namespace Console

theorem entries_run (prompt : Prompt) (ops : List ConsoleOp) :
    ((ofPrompt prompt).run ops).kills.entries =
      (((ofPrompt prompt).removedTexts ops).filter (!·.isEmpty)).rtake 10 := by
  induction ops using List.reverseRecOn with
  | nil => rfl
  | append_singleton ops op ih =>
    have hcursor := ((inRange_ofPrompt prompt).run ops).cursor
    rw [run_concat, kills_perform hcursor, removedTexts, moments_concat, List.map_append]
    exact KillRing.entries_add ih _

/-- After any operations on a new console the kill ring holds the last ten of the texts that they
took out of the line, in order and not counting empty ones. If one more operation answers that it
removed some characters, they are those that stood between its two places; they are the newest text
of the kill ring, and a yank restores the buffer as it was before the removal, with the cursor just
behind them. -/
theorem kills_eq_removedTexts (prompt : Prompt) (ops : List ConsoleOp) :
    let c := (ofPrompt prompt).run ops
    c.kills.entries = (((ofPrompt prompt).removedTexts ops).filter (!·.isEmpty)).rtake 10 ∧
      ∀ op n, (c.perform op).2 = .removed n → 0 < n →
        ∃ start stop, op.range? c.buffer = some (start, stop) ∧
          (c.buffer.line.extract start stop).length = n ∧
          (c.perform op).1.buffer = { c.buffer with
            line := c.buffer.line.take start ++ c.buffer.line.drop stop, cursor := start } ∧
          (c.perform op).1.kills.newest? = some (c.buffer.line.extract start stop) ∧
          (c.perform op).1.yank.2 = true ∧
          (c.perform op).1.yank.1.buffer = { c.buffer with cursor := start + n } := by
  intro c
  have hcursor : c.buffer.CursorInLine := ((inRange_ofPrompt prompt).run ops).cursor
  refine ⟨entries_run prompt ops, ?_⟩
  intro op n hremoved hpos
  obtain ⟨start, stop, hrange⟩ := exists_range_of_removed hremoved
  obtain ⟨m, hm, htaken⟩ := takesOut_perform hcursor hrange
  obtain rfl : m = n := ConsoleAnswer.removed.inj (hm.symm.trans hremoved)
  have hsome : c.buffer.line.extract start stop ≠ [] :=
    List.ne_nil_of_length_pos (htaken.count ▸ hpos)
  obtain ⟨hnewest, hdone, hback⟩ := yank_of_takesOut htaken hsome
  exact ⟨start, stop, hrange, htaken.count.symm, htaken.cut hsome, hnewest, hdone, hback⟩

/-- Two texts are taken out, and a third one by a range that goes on behind the end of the line. -/
theorem kills_eq_removedTexts_three :
    let ops : List ConsoleOp := [.insert "hello world".toList, .onBuffer (.setCursor 5),
      .deletePrevious 2, .deletePrevious 0, .killToEnd]
    let c := (ofPrompt {}).run ops
    (c.perform (.deleteRange 1 9)).2 = .removed 2 ∧ 0 < 2 ∧
      c.kills.entries = ["lo".toList, " world".toList] ∧
      (c.perform (.deleteRange 1 9)).1.kills.newest? = some "el".toList ∧
      (c.perform (.deleteRange 1 9)).1.yank.1.buffer = { line := "hel".toList, cursor := 3 } := by
  intro ops c
  have hremoved : (c.perform (.deleteRange 1 9)).2 = .removed 2 := by decide
  obtain ⟨hentries, htaken⟩ := kills_eq_removedTexts {} ops
  obtain ⟨start, stop, hrange, -, -, hnewest, -, hback⟩ := htaken _ 2 hremoved (by decide)
  cases hrange
  refine ⟨hremoved, by decide, ?_, ?_, ?_⟩
  · rw [hentries]
    decide
  · rw [hnewest]
    decide
  · rw [hback]
    decide

end Console

end LineEditor

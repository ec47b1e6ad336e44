import LineEditor.Proofs.RemovedText

/-!
# Edits that change nothing

An edit tells what it did: how many characters it removed, or whether there was anything to
overwrite or to put back. Where it tells that it did nothing, nothing of it should be left, neither
in the line nor in the undo stack, the kill ring and the output. Each edit has a guard in front of
its snapshot that sees to this. The guard of a removal looks at the places between which it takes
out text; at a cursor it looks at the end of the line only, and not at the number of characters that
are asked for. So a removal of no characters, where there are some, gets past its guard and leaves a
snapshot behind.

## Main definitions

* `Console.tellsNothing` — an edit tells that it did nothing.
* `ConsoleOp.AsksForNone` — no characters are to be removed where there are some.

## Main results

* `Console.perform_of_asksForNone` — what becomes of a console where none are asked for.
* `Console.perform_eq_self_iff` — which edits that tell that they did nothing leave nothing behind.
-/

namespace LineEditor

/-- No characters are to be removed at a cursor that has some on this side. -/
def ConsoleOp.AsksForNone (op : ConsoleOp) (b : Buffer) : Prop :=
  op = .deleteForward 0 ∧ b.cursor < b.line.length ∨ op = .deletePrevious 0 ∧ 0 < b.cursor

instance (op : ConsoleOp) (b : Buffer) : Decidable (op.AsksForNone b) :=
  inferInstanceAs (Decidable (_ ∨ _))

/-- A snapshot always leaves a trace, even where the newest one is the same. -/
theorem UndoStack.pushEdit_ne_self (u : UndoStack) (b : Buffer) : u.pushEdit b ≠ u := by
  intro hsame
  rw [pushEdit, push] at hsame
  split at hsame
  · have hskipped : u.skipped + 1 = u.skipped := congrArg skipped hsame
    omega
  · next hnew =>
    have hnewest : some b.snapshot = u.snapshots.head? :=
      congrArg (fun u => u.snapshots.head?) hsame
    exact hnew hnewest.symm

namespace Console

/-- An edit tells that it did nothing: it removed no characters, found none to overwrite, had no
text to put back, or was given the line that is there. -/
def tellsNothing (c : Console) (op : ConsoleOp) : Bool :=
  match op with
  | .deleteForward _ | .deletePrevious _ | .deleteRange _ _ | .killToEnd | .killToStart
  | .deleteLine => (c.perform op).2 = .removed 0
  | .replaceChar _ _ | .yank => (c.perform op).2 = .done false
  | .replaceLine t => t = c.buffer.line
  | _ => false

variable {c : Console}

theorem snapshot_ne_self (c : Console) : c.snapshot ≠ c :=
  fun hsame => c.undoStack.pushEdit_ne_self c.buffer (congrArg undoStack hsame)

/-! ### Removals -/

/-- A removal whose guard holds wherever there is nothing between its places: if no characters were
removed, the guard held. -/
theorem removal_eq_self {start stop : Nat} {guard : Prop} [Decidable guard]
    {edit : Buffer → Buffer × Text}
    (htaken : c.TakesOut start stop (if guard then (c, 0) else c.remove edit))
    (hguard : stop ≤ start ∨ c.buffer.line.length ≤ start → guard)
    (hzero : (if guard then (c, 0) else c.remove edit).2 = 0) :
    (if guard then (c, 0) else c.remove edit).1 = c := by
  have hnone : c.buffer.line.extract start stop = [] :=
    List.eq_nil_of_length_eq_zero (htaken.count.symm.trans hzero)
  rw [if_pos (hguard (extract_eq_nil_iff.mp hnone))]

theorem deleteForward_eq_self {n : Nat} (hn : n = 0 → c.buffer.line.length ≤ c.buffer.cursor)
    (hzero : (c.deleteForward n).2 = 0) : (c.deleteForward n).1 = c :=
  removal_eq_self (takesOut_deleteForward c n) (by omega) hzero

theorem deletePrevious_eq_self (h : c.buffer.CursorInLine) {n : Nat}
    (hn : n = 0 → c.buffer.cursor = 0) (hzero : (c.deletePrevious n).2 = 0) :
    (c.deletePrevious n).1 = c := by
  have hline : c.buffer.cursor ≤ c.buffer.line.length := h
  exact removal_eq_self (takesOut_deletePrevious h n) (by omega) hzero

theorem deleteRange_eq_self {start stop : Nat} (hzero : (c.deleteRange start stop).2 = 0) :
    (c.deleteRange start stop).1 = c :=
  removal_eq_self (takesOut_deleteRange c start stop) id hzero

/-- A removal that finds the buffer as it leaves it still takes its snapshot. -/
theorem remove_eq_snapshot {edit : Buffer → Buffer × Text} (h : edit c.buffer = (c.buffer, [])) :
    c.remove edit = (c.snapshot, 0) := by
  rw [remove, h]
  rfl

/-- Where no characters are asked for, the snapshot is all that is left of the edit. -/
theorem perform_of_asksForNone {op : ConsoleOp} (h : op.AsksForNone c.buffer) :
    c.perform op = (c.snapshot, .removed 0) := by
  rcases h with ⟨rfl, hmore⟩ | ⟨rfl, hmore⟩
  · have hedit : c.buffer.deleteForward 0 = (c.buffer, []) := by
      rw [Buffer.deleteForward, Nat.add_zero, List.take_append_drop, List.take_zero]
    rw [perform, deleteForward, if_neg (Nat.not_le.mpr hmore), remove_eq_snapshot hedit]
    rfl
  · have hedit : c.buffer.deletePrevious 0 = (c.buffer, []) := by
      rw [Buffer.deletePrevious, Nat.sub_zero, List.take_append_drop, List.drop_take_self]
    rw [perform, deletePrevious, if_neg (Nat.ne_of_gt hmore), remove_eq_snapshot hedit]
    rfl

/-! ### All edits -/

theorem replaceChar_eq_self {ch : Char} {pos : Nat} (h : (c.replaceChar ch pos).2 = false) :
    (c.replaceChar ch pos).1 = c := by
  rw [replaceChar] at h ⊢
  split at h
  · next hend => rw [if_pos hend]
  · contradiction

theorem yank_eq_self (h : c.yank.2 = false) : c.yank.1 = c := by
  rw [yank] at h ⊢
  split at h
  · rfl
  · contradiction

theorem replaceLine_line (c : Console) : c.replaceLine c.buffer.line = c :=
  if_pos rfl

/-- The guards cover every way in which an edit can come to nothing, but for a removal of no
characters. -/
theorem perform_eq_self (h : c.buffer.CursorInLine) {op : ConsoleOp}
    (htells : c.tellsNothing op = true) (hasks : ¬op.AsksForNone c.buffer) :
    (c.perform op).1 = c := by
  cases op with
  | deleteForward n =>
    have hn : n = 0 → c.buffer.line.length ≤ c.buffer.cursor := by
      rintro rfl
      exact Nat.le_of_not_lt fun hmore => hasks (.inl ⟨rfl, hmore⟩)
    exact deleteForward_eq_self hn (ConsoleAnswer.removed.inj (of_decide_eq_true htells))
  | deletePrevious n =>
    have hn : n = 0 → c.buffer.cursor = 0 := by
      rintro rfl
      exact Nat.eq_zero_of_not_pos fun hmore => hasks (.inr ⟨rfl, hmore⟩)
    exact deletePrevious_eq_self h hn (ConsoleAnswer.removed.inj (of_decide_eq_true htells))
  | deleteRange | killToEnd | killToStart | deleteLine =>
    -- these remove between two places, and their guard looks at both of them
    exact deleteRange_eq_self (ConsoleAnswer.removed.inj (of_decide_eq_true htells))
  | replaceChar ch pos =>
    exact replaceChar_eq_self (ConsoleAnswer.done.inj (of_decide_eq_true htells))
  | yank => exact yank_eq_self (ConsoleAnswer.done.inj (of_decide_eq_true htells))
  | replaceLine t =>
    obtain rfl : t = c.buffer.line := of_decide_eq_true htells
    exact replaceLine_line c
  | _ => contradiction

/-- After any operations on a new console, an edit that tells that it did nothing leaves all of the
console as it was, but for a removal of no characters at a cursor that has some on this side. That
one takes a snapshot, which also ends a run of insertions, and does no more. -/
theorem perform_eq_self_iff (prompt : Prompt) (ops : List ConsoleOp) (op : ConsoleOp)
    (htells : ((ofPrompt prompt).run ops).tellsNothing op = true) :
    let c := (ofPrompt prompt).run ops
    ((c.perform op).1 = c ↔ ¬op.AsksForNone c.buffer) ∧
      (op.AsksForNone c.buffer → (c.perform op).1 = c.snapshot) := by
  intro c
  have hcursor : c.buffer.CursorInLine := ((inRange_ofPrompt prompt).run ops).cursor
  have hnone : op.AsksForNone c.buffer → (c.perform op).1 = c.snapshot :=
    fun hasks => congrArg Prod.fst (perform_of_asksForNone hasks)
  refine ⟨⟨?_, perform_eq_self hcursor htells⟩, hnone⟩
  intro hsame hasks
  exact c.snapshot_ne_self ((hnone hasks).symm.trans hsame)

/-- At the end of a line that is being typed nothing is left to remove, and nothing comes of it. -/
theorem perform_eq_self_iff_at_end :
    let c := (ofPrompt {}).run [.insert ['a'], .insert ['b']]
    c.tellsNothing (.deleteForward 1) = true ∧ (c.perform (.deleteForward 1)).1 = c := by
  intro c
  have htells : c.tellsNothing (.deleteForward 1) = true := by decide
  exact ⟨htells, (perform_eq_self_iff {} _ (.deleteForward 1) htells).1.mpr (by decide)⟩

/-- A removal of no characters inside a line removes none, and adds to what there is to undo. -/
theorem deleteForward_zero_takes_snapshot :
    let c := (ofPrompt {}).run [.insert ['a', 'b'], .onBuffer (.setCursor 1)]
    c.tellsNothing (.deleteForward 0) = true ∧ (c.perform (.deleteForward 0)).1 ≠ c ∧
      c.undoStack.depth = 1 ∧ (c.perform (.deleteForward 0)).1.undoStack.depth = 2 := by
  decide

end Console

end LineEditor

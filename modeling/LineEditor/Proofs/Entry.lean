import LineEditor.Proofs.Continuation
import LineEditor.Proofs.Enter

/-!
# The entry that a read accepts

A read may take several physical lines. As long as it goes on, each Enter folds its line into the
entry, and the Enter that ends the read accepts the entry and puts it into the history. So the
entry can be told from the lines on which Enter was pressed.

## Main definitions

* `Editor.pressedLines` are the lines on which Enter was pressed.
* `Editor.GoesOnTo` — an editor that came from another one while a read went on.
* `Editor.Remembers` — an entry was put into the history.

## Main results

* `Editor.goesOnTo_takes` — what a read has gathered while it goes on.
* `Editor.accepted_eq_joined` — the entry that a read accepts, and when it is the right one.
-/

namespace LineEditor

/-- Nothing is masked, neither this line nor those that will continue it. -/
def Buffer.Bare (b : Buffer) : Prop :=
  b.prompt.mask = none ∧ b.mainPrompt.mask = none

theorem Buffer.Bare.isMasked_eq_false {b : Buffer} (h : b.Bare) : b.isMasked = false := by
  rw [isMasked, h.1]
  rfl

theorem Buffer.bare_of_reset_eq {b : Buffer} (hreset : b.reset = b) (hmask : b.isMasked = false) :
    b.Bare := by
  have hprompt : b.mainPrompt = b.prompt := congrArg Buffer.prompt hreset
  have hnone : b.prompt.mask = none := by simpa [isMasked] using hmask
  exact ⟨hnone, hprompt ▸ hnone⟩

/-- The entries after a push depend on what is stored only, and not on the positions. -/
theorem History.entries_push_congr {h h' : History} (hstored : h.stored = h'.stored)
    (entry : Text) : (h.push entry).entries = (h'.push entry).entries := by
  have hentries : h.entries = h'.entries := (congrArg History.entries hstored :)
  have hcapacity : h.capacity = h'.capacity := (congrArg History.capacity hstored :)
  rw [push, push, hentries, hcapacity]
  rfl

namespace Editor

/-- The lines on which Enter is pressed while the editor takes some units of input. -/
def pressedLines : Editor → List Token → List Text
  | _, [] => []
  | e, token :: rest =>
    if e.action? token = some .acceptLine then e.buffer.line :: (e.take token).pressedLines rest
    else (e.take token).pressedLines rest

/-- The second editor came from the first one while an unmasked read went on: some lines were
folded into the entry, and nothing was stored in the history. -/
structure GoesOnTo (e f : Editor) (lines : List Text) : Prop where
  bare : f.buffer.Bare
  folded : f.buffer.folded =
    e.buffer.folded ++ lines.flatMap (Text.piece Buffer.dropContinuation)
  stored : f.history.stored = e.history.stored

/-- An entry was put into the history, if the history is switched on and the entry not blank. -/
def Remembers (e f : Editor) (entry : Text) : Prop :=
  f.history.entries =
    if e.records entry then (e.history.push entry).entries else e.history.entries

section Step

variable {e : Editor} {token : Token}

/-- Of an unmasked line Enter makes a comment, one of the two ways to go on, or the end. -/
theorem ending_of_bare (hbare : e.buffer.Bare) :
    e.ending =
      if e.buffer.line.isComment then .comment
      else if e.buffer.line.backslashRun % 2 = 1 then .escaped
      else if e.buffer.entry.endsInQuote e.continuation.kinds then .openQuote
      else .complete := by
  rw [ending, lineEnding, hbare.isMasked_eq_false]
  simp only [Text.head?_trim_eq_some_iff, Text.endsInEscape_trim, decide_eq_true_eq,
    Bool.false_eq_true, if_false]

/-- What an Enter with which the read goes on does to the buffer. -/
theorem afterEnter_of_not_completes (hbare : e.buffer.Bare) (h : e.ending.completes = false) :
    (e.buffer.afterEnter e.ending).Bare ∧
      (e.buffer.afterEnter e.ending).folded =
        e.buffer.folded ++ Text.piece Buffer.dropContinuation e.buffer.line := by
  rw [ending_of_bare hbare] at h ⊢
  rw [Text.piece]
  split
  · exact ⟨hbare, (List.append_nil _).symm⟩
  · split
    · next hodd =>
      -- the white space that Enter removes first is none, since the line ends in a backslash
      have htrim := Text.trimEnd_of_backslashRun_ne_zero (t := e.buffer.line) (by omega)
      refine ⟨⟨hbare.2, hbare.2⟩, ?_⟩
      simp [Buffer.afterEnter, Buffer.fold, Buffer.replace, Buffer.setMultiLine, htrim]
    · split
      · refine ⟨⟨hbare.2, hbare.2⟩, ?_⟩
        simp [Buffer.afterEnter, Buffer.fold, Buffer.setMultiLine]
      · next hcomment hodd hquote => simp [hcomment, hodd, hquote, LineEnding.completes] at h

theorem ending_eq_complete (hbare : e.buffer.Bare) (h : e.ending.completes = true) :
    e.ending = .complete := by
  rw [ending_of_bare hbare] at h ⊢
  grind [LineEnding.completes]

/-- One unit of input with which the read goes on. -/
theorem goesOnTo_take (hbare : e.buffer.Bare) (hnow : e.accepted = none)
    (hthen : (e.take token).accepted = none) :
    e.GoesOnTo (e.take token) (e.pressedLines [token]) := by
  by_cases haction : e.action? token = some .acceptLine
  · have henter := entered_take haction
    have hending := completes_eq_false_of_accepted_eq_none haction hnow hthen
    obtain ⟨hbare', hfolded⟩ := afterEnter_of_not_completes hbare hending
    refine ⟨?_, ?_, ?_⟩
    · rw [henter.buffer]
      exact hbare'
    · rw [henter.buffer, hfolded, pressedLines, if_pos haction, pressedLines]
      simp
    · rw [henter.history_eq hending]
  · have hframed := framed_take haction
    refine ⟨?_, ?_, hframed.stored⟩
    · rw [Buffer.Bare, hframed.prompt_eq, hframed.mainPrompt_eq]
      exact hbare
    · rw [hframed.folded_eq, pressedLines, if_neg haction, pressedLines]
      simp

end Step

theorem GoesOnTo.trans {e f g : Editor} {lines lines' : List Text} (h : e.GoesOnTo f lines)
    (h' : f.GoesOnTo g lines') : e.GoesOnTo g (lines ++ lines') := by
  refine ⟨h'.bare, ?_, h'.stored.trans h.stored⟩
  rw [h'.folded, h.folded, List.flatMap_append, List.append_assoc]

theorem pressedLines_cons (e : Editor) (token : Token) (rest : List Token) :
    e.pressedLines (token :: rest) =
      e.pressedLines [token] ++ (e.take token).pressedLines rest := by
  rw [pressedLines, pressedLines, pressedLines]
  split
  · rfl
  · rfl

/-- What a read has gathered while it goes on: each line on which Enter was pressed is folded into
the entry. -/
theorem goesOnTo_takes {e : Editor} {tokens : List Token} (hbare : e.buffer.Bare)
    (h : e.GoesOn tokens) : e.GoesOnTo (e.takes tokens) (e.pressedLines tokens) := by
  induction tokens generalizing e with
  | nil => exact ⟨hbare, (List.append_nil _).symm, rfl⟩
  | cons token rest ih =>
    have hstep := goesOnTo_take hbare h.1 h.2.accepted_eq_none
    rw [takes_cons, pressedLines_cons]
    exact hstep.trans (ih hstep.bare h.2)

/-- The Enter that ends the read puts the whole entry into the history. What the history remembers
is told by the history at the start of the read, since nothing was stored meanwhile. -/
theorem GoesOnTo.remembers_take {e f : Editor} {lines : List Text} {token : Token}
    (h : e.GoesOnTo f lines) (haction : f.action? token = some .acceptLine)
    (hcompletes : f.ending.completes = true) :
    e.Remembers (f.take token) f.buffer.entry := by
  have hcomplete := ending_eq_complete h.bare hcompletes
  have henabled : f.history.enabled = e.history.enabled := (congrArg History.enabled h.stored :)
  have hentries : f.history.entries = e.history.entries := (congrArg History.entries h.stored :)
  rw [Remembers, (entered_take haction).history, hcomplete, records, records, henabled]
  split
  · next hrecords => rw [if_pos hrecords.2, History.entries_push_congr h.stored]
  · next hrecords => rw [if_neg (fun hon => hrecords ⟨rfl, hon⟩), hentries]

/-- An unmasked read that starts from a reset buffer accepts the entry that is joined from the lines
on which Enter was pressed and the last one, where one backslash is dropped at the end of every line
that goes on. That is the entry as it should be, with escaped backslashes kept, and the entry as it
should be is what the history remembers, exactly if no line that goes on ends in a row of escaped
backslashes. -/
theorem accepted_eq_joined (e : Editor) (before : List Token) (token : Token) (text : Text)
    (hreset : e.buffer.reset = e.buffer) (hmask : e.buffer.isMasked = false)
    (hbefore : e.GoesOn before) (haccept : ((e.takes before).take token).accepted = some text) :
    text = Text.joined Buffer.dropContinuation (e.pressedLines before)
        (e.takes before).buffer.line ∧
      e.Remembers ((e.takes before).take token) text ∧
      let entry := Text.joined Text.continued (e.pressedLines before) (e.takes before).buffer.line
      (text = entry ∧ e.Remembers ((e.takes before).take token) entry ↔
        ∀ line ∈ e.pressedLines before, line.isComment = false → line.backslashRun % 2 = 0 →
          line.backslashRun = 0) := by
  have hgoes := goesOnTo_takes (Buffer.bare_of_reset_eq hreset hmask) hbefore
  obtain ⟨haction, hcompletes, hentry⟩ :=
    (accepted_take_eq_some_iff hbefore.accepted_takes_eq_none).mp haccept
  have htext : text = Text.joined Buffer.dropContinuation (e.pressedLines before)
      (e.takes before).buffer.line := by
    have hempty : e.buffer.folded = [] := by rw [← hreset]; rfl
    rw [hentry, Buffer.entry, hgoes.folded, hempty, List.nil_append, Text.joined]
  have hremembers : e.Remembers ((e.takes before).take token) text := by
    rw [hentry]
    exact hgoes.remembers_take haction hcompletes
  refine ⟨htext, hremembers, ?_⟩
  rw [← Text.joined_dropContinuation_eq_iff, ← htext]
  constructor
  · intro h
    exact h.1
  · intro h
    exact ⟨h, h ▸ hremembers⟩

/-- An escaped line break, a comment, and the last line. -/
theorem accepted_eq_joined_three_lines :
    let e : Editor := .new {} { capacity := 50 } (.ofMode .emacs) .enabled
    let before := typed "a \\\r # note\rb"
    let enter : Token := .key (.plain .enter)
    (e.buffer.reset = e.buffer ∧ e.buffer.isMasked = false ∧ e.GoesOn before ∧
      ((e.takes before).take enter).accepted = some "a \nb".toList) ∧
      "a \nb".toList = Text.joined Buffer.dropContinuation (e.pressedLines before)
        (e.takes before).buffer.line := by
  refine ⟨⟨by decide, by decide, by decide, by decide⟩, ?_⟩
  exact (accepted_eq_joined _ _ (.key (.plain .enter)) _ (by decide) (by decide) (by decide)
    (by decide)).1

/-- A line that goes on because a quotation is open loses one of the two backslashes at its end. -/
theorem accepted_loses_escaped_backslash :
    ∃ (e : Editor) (before : List Token) (token : Token) (text : Text),
      e.buffer.reset = e.buffer ∧ e.buffer.isMasked = false ∧ e.GoesOn before ∧
        ((e.takes before).take token).accepted = some text ∧
        text ≠ Text.joined Text.continued (e.pressedLines before) (e.takes before).buffer.line ∧
        ((e.takes before).take token).history.entries = [text] := by
  refine ⟨.new {} { capacity := 50 } (.ofMode .emacs) .enabled, typed "\"a\\\\\rb\"",
    .key (.plain .enter), "\"a\\\nb\"".toList, ?_⟩
  decide

end Editor

end LineEditor

import LineEditor.Proofs.Chunks
import LineEditor.Proofs.Delivery
import LineEditor.Proofs.Turn
import Mathlib.Data.List.Infix
import Mathlib.Tactic.IntervalCases

/-!
# A paste is data

What is pasted comes between two marks. It may hold anything but the mark that ends it: line breaks,
control codes, the sequences of keys, the mark that starts a paste, and beginnings of the one that
ends it; and it may come in chunks that are cut anywhere, inside the marks as well. It is read as
one unit of input all the same, none of it is taken for a key, and in the command layer none of it
is taken at all. Only a chunk that ends directly behind the escape of the first mark is another
matter, because a lone escape is the Escape key.

The mark that ends a paste is looked for at the end of what has been read. It is not found too
early, since no proper part of the mark is both at its start and at its end.

## Main definitions

* `bracketed` is a paste with its marks.
* `KeyReader.feedAll` reads several chunks, and `Engine.takeChunks` runs what they bring.
* `Editor.Inserted` — a text was put into the line at the cursor, and nothing else was done.

## Main results

* `KeyReader.eq_of_pasteEnd_suffix` — where the mark that ends a paste is found.
* `KeyReader.feedAll_eq_steps` — chunks may be cut wherever no lone escape is left.
* `KeyReader.feedAll_bracketed` — a paste is one unit of input.
* `Editor.buffer_perform_undo_take_paste` — undo takes a paste back as a whole.
* `Engine.takeChunks_bracketed` — what a paste does to a session.
-/

namespace LineEditor

/-- The mark that starts a paste. -/
def pasteMark : Text := ['\x1b', '[', '2', '0', '0', '~']

/-- A paste with the marks around it. -/
def bracketed (payload : Text) : Text :=
  pasteMark ++ (payload ++ KeyReader.pasteEnd)

namespace KeyReader

variable {r : KeyReader} {payload w : Text}

/-! ### The mark that ends a paste -/

/-- In a paste that does not hold the mark that ends it, the mark is found at the end only. -/
theorem eq_of_pasteEnd_suffix (hpayload : ¬pasteEnd <:+: payload)
    (hw : w <+: payload ++ pasteEnd) (hsuffix : pasteEnd <:+ w) : w = payload ++ pasteEnd := by
  obtain ⟨a, rfl⟩ := hsuffix
  obtain ⟨rest, heq⟩ := hw
  have hlength : a.length + rest.length = payload.length := by
    have h := congrArg List.length heq
    simp only [List.length_append] at h
    omega
  rcases Nat.lt_or_ge rest.length pasteEnd.length with hlt | hge
  · -- the mark overlaps with the last one, whose escape is in the place of one of its characters
    have hescape : pasteEnd[rest.length]? = some '\x1b' := by
      have hat := congrArg (·[a.length + rest.length]?) heq
      simp only [List.append_assoc] at hat
      rw [List.getElem?_append_right (Nat.le_add_right _ _), Nat.add_sub_cancel_left,
        List.getElem?_append_left hlt, hlength, List.getElem?_append_right (Nat.le_refl _),
        Nat.sub_self] at hat
      exact hat
    have hnone : rest.length = 0 := by
      have hsize : pasteEnd.length = 6 := rfl
      rw [hsize] at hlt
      interval_cases hn : rest.length
      · rfl
      all_goals exact absurd hescape (by decide)
    rw [List.length_eq_zero_iff.mp hnone, List.append_nil] at heq
    exact heq
  · -- the mark lies in the paste
    have hprefix : a ++ pasteEnd <+: payload := by
      refine List.prefix_of_prefix_length_le ⟨rest, heq⟩ (List.prefix_append _ _) ?_
      rw [List.length_append]
      omega
    exact absurd ((List.suffix_append a pasteEnd).isInfix.trans hprefix.isInfix) hpayload

/-! ### The inside of a paste -/

theorem step_paste_of_suffix {body : Text} {c : Char} (h : pasteEnd <:+ body ++ [c]) :
    ({ mode := .paste body } : KeyReader).step c =
      ({}, [.paste ((body ++ [c]).take ((body ++ [c]).length - pasteEnd.length))]) :=
  if_pos (List.isSuffixOf_iff_suffix.mpr h)

theorem step_paste_of_not_suffix {body : Text} {c : Char} (h : ¬pasteEnd <:+ body ++ [c]) :
    ({ mode := .paste body } : KeyReader).step c = ({ mode := .paste (body ++ [c]) }, []) :=
  if_neg fun hsuffix => h (List.isSuffixOf_iff_suffix.mp hsuffix)

/-- Inside a paste everything is kept as long as the mark that ends it is not found. -/
theorem steps_paste {body t : Text} (h : ∀ w, w <+: t → ¬pasteEnd <:+ body ++ w) :
    ({ mode := .paste body } : KeyReader).steps t = ({ mode := .paste (body ++ t) }, []) := by
  induction t generalizing body with
  | nil => simp
  | cons c t ih =>
    have hstep := step_paste_of_not_suffix (h [c] (List.prefix_append [c] t))
    have hrest : ∀ w, w <+: t → ¬pasteEnd <:+ body ++ [c] ++ w := by
      intro w hw
      rw [List.append_assoc]
      exact h (c :: w) (List.cons_prefix_cons.mpr ⟨rfl, hw⟩)
    rw [steps_cons, hstep, ih hrest, List.append_assoc]
    rfl

/-- A beginning of a paste that is not all of it is kept, with what there is of the mark. -/
theorem steps_paste_beginning (hpayload : ¬pasteEnd <:+: payload)
    (hw : w <+: payload ++ pasteEnd) (hne : w ≠ payload ++ pasteEnd) :
    ({ mode := .paste [] } : KeyReader).steps w = ({ mode := .paste w }, []) := by
  refine steps_paste fun v hv hsuffix => ?_
  have hall : v = payload ++ pasteEnd := eq_of_pasteEnd_suffix hpayload (hv.trans hw) hsuffix
  -- what is found lies in `w`, so that `w` would be all of it
  exact hne (hw.eq_of_length_le (hall ▸ hv.length_le))

theorem steps_paste_pasteEnd (hpayload : ¬pasteEnd <:+: payload) :
    ({ mode := .paste [] } : KeyReader).steps (payload ++ pasteEnd) = ({}, [.paste payload]) := by
  have hsplit : payload ++ pasteEnd = payload ++ pasteEnd.dropLast ++ ['~'] := by
    rw [List.append_assoc]
    rfl
  have hne : payload ++ pasteEnd.dropLast ≠ payload ++ pasteEnd :=
    fun heq => absurd (List.append_cancel_left heq) (by decide)
  have hbefore := steps_paste_beginning hpayload (hsplit ▸ List.prefix_append _ ['~']) hne
  have hlast := step_paste_of_suffix (hsplit ▸ List.suffix_append payload pasteEnd)
  have htake : (payload ++ pasteEnd).take ((payload ++ pasteEnd).length - pasteEnd.length) =
      payload := by
    rw [List.length_append, Nat.add_sub_cancel, List.take_left]
  rw [← hsplit, htake] at hlast
  rw [hsplit, steps_append, hbefore, steps_cons, hlast]
  rfl

/-! ### The whole paste -/

/-- The mark that starts a paste is read from any idle reader, also one behind a return. -/
theorem steps_pasteMark (h : r.hasPending = false) :
    r.steps pasteMark = ({ mode := .paste [] }, []) := by
  obtain ⟨mode, afterReturn⟩ := r
  obtain rfl : mode = .ground := by simpa [hasPending] using h
  rfl

theorem steps_bracketed (h : r.hasPending = false) (hpayload : ¬pasteEnd <:+: payload) :
    r.steps (bracketed payload) = ({}, [.paste payload]) := by
  rw [bracketed, steps_append, steps_pasteMark h, steps_paste_pasteEnd hpayload]
  rfl

/-- In the course of a paste a lone escape is held only directly behind the first one. -/
theorem mode_steps_ne_escape (h : r.hasPending = false) (hpayload : ¬pasteEnd <:+: payload)
    (hw : w <+: bracketed payload) (hne : w ≠ ['\x1b']) : (r.steps w).1.mode ≠ .escape := by
  rcases List.prefix_or_prefix_of_prefix hw (List.prefix_append _ _) with hstart | ⟨inside, rfl⟩
  · obtain ⟨mode, afterReturn⟩ := r
    obtain rfl : mode = .ground := by simpa [hasPending] using h
    have hall : ∀ w ∈ pasteMark.inits, w ≠ ['\x1b'] →
        (({ mode := .ground, afterReturn } : KeyReader).steps w).1.mode ≠ .escape := by
      cases afterReturn <;> decide
    exact hall w ((List.mem_inits _ _).mpr hstart) hne
  · have hinside : inside <+: payload ++ pasteEnd := (List.prefix_append_right_inj _).mp hw
    rw [steps_append, steps_pasteMark h]
    by_cases hall : inside = payload ++ pasteEnd
    · rw [hall, steps_paste_pasteEnd hpayload]
      exact Mode.noConfusion
    · rw [steps_paste_beginning hpayload hinside hall]
      exact Mode.noConfusion

/-! ### Chunks -/

/-- Reads several chunks. -/
def feedAll : KeyReader → List Text → KeyReader × List Token
  | r, [] => (r, [])
  | r, chunk :: rest =>
    let (r, first) := r.feed chunk
    let (r, others) := feedAll r rest
    (r, first ++ others)

theorem feedAll_cons (r : KeyReader) (chunk : Text) (rest : List Text) :
    r.feedAll (chunk :: rest) =
      (((r.feed chunk).1.feedAll rest).1, (r.feed chunk).2 ++ ((r.feed chunk).1.feedAll rest).2) :=
  rfl

/-- Chunks none of which leaves a lone escape are read as the text that they make up. -/
theorem feedAll_eq_steps {chunks : List Text}
    (h : ∀ cut, cut <+: chunks → (r.steps cut.flatten).1.mode ≠ .escape) :
    r.feedAll chunks = r.steps chunks.flatten := by
  induction chunks generalizing r with
  | nil => rfl
  | cons chunk rest ih =>
    have hfirst : (r.steps chunk).1.mode ≠ .escape := by
      have hcut := h [chunk] (List.prefix_append [chunk] rest)
      rwa [List.flatten_singleton] at hcut
    have hfeed : r.feed chunk = r.steps chunk :=
      feed_of_pending_ne fun hpending => hfirst ((pending_eq_escape_iff _).mp hpending)
    have hrest : ∀ cut, cut <+: rest →
        ((r.steps chunk).1.steps cut.flatten).1.mode ≠ .escape := by
      intro cut hcut
      have hlonger := h (chunk :: cut) (List.cons_prefix_cons.mpr ⟨rfl, hcut⟩)
      rwa [List.flatten_cons, steps_append] at hlonger
    rw [feedAll_cons, hfeed, ih hrest, List.flatten_cons, steps_append]

/-- A paste is one unit of input, however its chunks are cut, unless a chunk ends directly behind
the escape of its first mark. -/
theorem feedAll_bracketed {chunks : List Text} (h : r.hasPending = false)
    (hpayload : ¬pasteEnd <:+: payload) (hstream : chunks.flatten = bracketed payload)
    (hcut : ∀ cut ∈ chunks.inits, cut.flatten ≠ ['\x1b']) :
    r.feedAll chunks = ({}, [.paste payload]) := by
  have hnone : ∀ cut, cut <+: chunks → (r.steps cut.flatten).1.mode ≠ .escape := by
    intro cut hprefix
    obtain ⟨rest, rfl⟩ := hprefix
    have hmem : cut ∈ (cut ++ rest).inits := (List.mem_inits _ _).mpr (List.prefix_append cut rest)
    refine mode_steps_ne_escape h hpayload ?_ (hcut cut hmem)
    rw [← hstream, List.flatten_append]
    exact List.prefix_append _ _
  rw [feedAll_eq_steps hnone, hstream, steps_bracketed h hpayload]

end KeyReader

/-! ### The line -/

theorem UndoStack.head?_push (u : UndoStack) (b : Buffer) :
    (u.push b).snapshots.head? = some b.snapshot := by
  rw [push]
  split
  · next hsame => exact hsame
  · rfl

theorem Console.buffer_undo (c : Console) :
    c.undo.1.buffer = (c.undoStack.snapshots.head?.map c.buffer.restore).getD c.buffer := by
  cases h : c.undoStack.snapshots with
  | nil =>
    rw [undo_of_snapshots_eq_nil h]
    rfl
  | cons s rest =>
    rw [undo_of_snapshots_eq_cons h]
    rfl

/-- An edit that inserts something is taken back as a whole by one undo. -/
theorem Console.buffer_undo_insertDiscrete {c : Console} {t : Text}
    (hcursor : c.buffer.CursorInLine) (ht : t ≠ []) :
    (c.insertDiscrete t).undo.1.buffer = c.buffer := by
  have hempty : t.isEmpty = false := List.isEmpty_eq_false_iff.mpr ht
  have hinsert : c.insertDiscrete t = c.snapshot.onBuffer (·.insert t) := by
    rw [insertDiscrete, hempty, if_neg Bool.false_ne_true]
  have hnewest : (c.insertDiscrete t).undoStack.snapshots.head? = some c.buffer.snapshot :=
    hinsert ▸ c.undoStack.endRun.head?_push c.buffer
  rw [buffer_undo, hnewest, hinsert]
  exact Buffer.restore_eq (s := c.buffer.snapshot) hcursor _

namespace Editor

/-- A text was put into the line at the cursor, which is behind it now, and nothing was done besides
that: no action was performed, no line was accepted, and neither the layer nor the history has
changed. -/
structure Inserted (d f : Editor) (t : Text) : Prop where
  line : f.buffer.line =
    d.buffer.line.take d.buffer.cursor ++ t ++ d.buffer.line.drop d.buffer.cursor
  cursor : f.buffer.cursor = d.buffer.cursor + t.length
  trail : f.trail = d.trail
  accepted : f.accepted = d.accepted
  layer : f.layer = d.layer
  history : f.history = d.history

variable {d : Editor} {payload : Text}

theorem flattenPaste_eq_nil_iff : flattenPaste payload = [] ↔ payload = [] := by
  fun_cases flattenPaste payload with
  | case1 => simp
  | case2 rest => simp
  | case3 c rest hreturn => simp

/-- A paste accepts no line. -/
theorem accepted_take_paste (d : Editor) (payload : Text) :
    (d.take (.paste payload)).accepted = d.accepted := by
  have hnone : d.action? (.paste payload) = none := rfl
  exact (edited_take_of_action?_eq_none hnone).framed.accepted_eq

/-- A session that digests a paste goes on with the read. -/
theorem digestAll_paste (h : d.accepted = none) :
    d.digestAll [.paste payload] = (d.take (.paste payload), []) := by
  have hforget := forgetAccepted_of_accepted_eq_none h
  have hthen : (d.take (.paste payload)).accepted = none := (accepted_take_paste d payload).trans h
  have hdigest : d.digest (.paste payload) = (d.take (.paste payload), none) := by
    rw [digest_of_accepted_eq_none (hforget.symm ▸ hthen), hforget]
  rw [digestAll_cons, hdigest]
  simp [digestAll, forgetAccepted_of_accepted_eq_none hthen]

/-- The command layer takes no paste. -/
theorem take_paste_of_command (h : d.layer = .command) : d.take (.paste payload) = d := by
  simp only [take, insertPaste, h]

theorem take_paste_nil : d.take (.paste []) = d := by
  rw [take, insertPaste]
  split
  · rfl
  · rfl

theorem take_paste_of_insert (h : d.layer = .insert) (hne : payload ≠ []) :
    d.take (.paste payload) =
      { d with searchTerm := none }.onConsole fun c =>
        (c.insertDiscrete (flattenPaste payload)).draw := by
  have hempty : (flattenPaste payload).isEmpty = false :=
    List.isEmpty_eq_false_iff.mpr (mt flattenPaste_eq_nil_iff.mp hne)
  simp only [take, insertPaste, h, hempty, Bool.false_eq_true, if_false]

/-- In the insert layer a paste puts its text into the line. -/
theorem inserted_take_paste (h : d.layer = .insert) :
    d.Inserted (d.take (.paste payload)) (flattenPaste payload) := by
  by_cases hne : payload = []
  · rw [hne, take_paste_nil]
    exact ⟨by simp [flattenPaste], rfl, rfl, rfl, rfl, rfl⟩
  · have hbuffer : (d.take (.paste payload)).buffer = d.buffer.insert (flattenPaste payload) := by
      rw [take_paste_of_insert h hne]
      exact Console.buffer_insertDiscrete _ _
    rw [take_paste_of_insert h hne] at hbuffer ⊢
    exact ⟨congrArg Buffer.line hbuffer, congrArg Buffer.cursor hbuffer, rfl, rfl, rfl, rfl⟩

/-- One undo takes a paste back as a whole. -/
theorem buffer_perform_undo_take_paste (h : d.layer = .insert) (hne : payload ≠ [])
    (hcursor : d.buffer.CursorInLine) :
    ((d.take (.paste payload)).perform .undo).1.buffer = d.buffer := by
  have hflat : flattenPaste payload ≠ [] := mt flattenPaste_eq_nil_iff.mp hne
  have hundo := Console.buffer_undo_insertDiscrete hcursor hflat
  rw [take_paste_of_insert h hne, perform, buffer_settle]
  -- neither the drawing nor the end of a run of insertions changes what undo restores
  rw [Console.buffer_undo] at hundo
  exact (Console.buffer_undo _).trans hundo

end Editor

namespace Engine

variable {e : Engine}

/-- Takes chunks as they come in: each of them is fed, and what waits is run then. -/
def takeChunks : Engine → List Text → Engine × List Text
  | e, [] => (e, [])
  | e, chunk :: rest =>
    let (e, first) := (e.feed chunk).drain
    let (e, others) := takeChunks e rest
    (e, first ++ others)

/-- Chunks that are fed put into the queue what is read from them. -/
theorem feeds_eq (e : Engine) (chunks : List Text) :
    e.feeds chunks = { e with
      reader := (e.reader.feedAll chunks).1
      queue := e.queue ++ (e.reader.feedAll chunks).2 } := by
  induction chunks generalizing e with
  | nil => simp [feeds, KeyReader.feedAll]
  | cons chunk rest ih =>
    have hcons : e.feeds (chunk :: rest) = (e.feed chunk).feeds rest := rfl
    rw [hcons, ih, KeyReader.feedAll_cons]
    simp [feed]

/-- Chunks that are run as they come in digest what waited and what is read from them. -/
theorem takeChunks_eq {chunks : List Text}
    (h : chunks ≠ [] ∨ e.queue = [] ∧ e.editor.accepted = none) :
    e.takeChunks chunks =
      let tokens := e.queue ++ (e.reader.feedAll chunks).2
      ({ editor := (e.editor.digestAll tokens).1
         reader := (e.reader.feedAll chunks).1 }, (e.editor.digestAll tokens).2) := by
  induction chunks generalizing e with
  | nil =>
    obtain ⟨hqueue, haccepted⟩ := h.resolve_left (· rfl)
    obtain ⟨editor, reader, queue⟩ := e
    obtain rfl : queue = [] := hqueue
    have hforget := Editor.forgetAccepted_of_accepted_eq_none haccepted
    simp [takeChunks, KeyReader.feedAll, Editor.digestAll, hforget]
  | cons chunk rest ih =>
    have hcons : e.takeChunks (chunk :: rest) =
        (((e.feed chunk).drain.1.takeChunks rest).1,
          (e.feed chunk).drain.2 ++ ((e.feed chunk).drain.1.takeChunks rest).2) := rfl
    -- behind a chunk nothing waits
    have hidle : (e.feed chunk).drain.1.queue = [] ∧
        (e.feed chunk).drain.1.editor.accepted = none := by
      rw [drain_eq_digestAll]
      exact ⟨rfl, Editor.accepted_digestAll _ _⟩
    rw [hcons, ih (.inr hidle), drain_eq_digestAll, KeyReader.feedAll_cons]
    simp [feed, Editor.digestAll_append]

/-- A paste is data. Fed between its marks to an engine whose reader is idle, in chunks none of
which ends directly behind the escape of the first mark, it is one unit of input behind those that
waited. When everything is run as it comes in, no line is accepted but those of the units that
waited, and the paste is met by the editor `d` that they lead to. In the insert layer its text is
put into the line, with a space for each line break, and one undo takes it back; in the command
layer nothing changes. -/
theorem takeChunks_bracketed {payload : Text} {chunks : List Text}
    (hidle : e.reader.hasPending = false) (hcursor : e.editor.buffer.CursorInLine)
    (hpayload : ¬KeyReader.pasteEnd <:+: payload) (hstream : chunks.flatten = bracketed payload)
    (hcut : ∀ cut ∈ chunks.inits, cut.flatten ≠ ['\x1b']) :
    let d := (e.editor.digestAll e.queue).1
    let f := d.take (.paste payload)
    e.feeds chunks = { e with reader := {}, queue := e.queue ++ [.paste payload] } ∧
      e.takeChunks chunks = ({ editor := f }, (e.editor.digestAll e.queue).2) ∧
      (d.layer = .insert → d.Inserted f (Editor.flattenPaste payload) ∧
        (payload ≠ [] → (f.perform .undo).1.buffer = d.buffer)) ∧
      (d.layer = .command → f = d) := by
  intro d f
  have hread := KeyReader.feedAll_bracketed hidle hpayload hstream hcut
  have hchunks : chunks ≠ [] := by
    rintro rfl
    simp [bracketed, pasteMark] at hstream
  have hd : d.accepted = none := Editor.accepted_digestAll _ _
  have hdcursor : d.buffer.CursorInLine := Editor.cursorInLine_digestAll hcursor e.queue
  refine ⟨by rw [feeds_eq, hread], ?_, ?_, ?_⟩
  · have hpaste : d.digestAll [.paste payload] = (f, []) := Editor.digestAll_paste hd
    rw [takeChunks_eq (.inl hchunks), hread]
    dsimp only
    rw [Editor.digestAll_append, hpaste, List.append_nil]
  · intro hlayer
    exact ⟨Editor.inserted_take_paste hlayer,
      fun hne => Editor.buffer_perform_undo_take_paste hlayer hne hdcursor⟩
  · intro hlayer
    exact Editor.take_paste_of_command hlayer

/-- A paste that holds line breaks, the mark that starts a paste, and twice a beginning of the one
that ends it, cut inside both marks and between a return and its line feed. A key waits in front of
it. -/
theorem takeChunks_bracketed_cut_inside_everything :
    let e : Engine := {
      editor :=
        (Editor.new {} { capacity := 50 } (.ofMode .emacs) .enabled).takes (typed "ab\x1b[D")
      reader := { afterReturn := true }
      queue := typed "-" }
    let payload : Text := "x\r\ny\x1b[200~\r\x1b[201".toList
    let chunks : List Text :=
      ["\x1b[2", "00~x\r", "\ny\x1b[200~\r\x1b", "", "[201\x1b", "[20", "1~"].map String.toList
    let f := (e.takeChunks chunks).1.editor
    (e.reader.hasPending = false ∧ e.editor.buffer.CursorInLine ∧
      ¬KeyReader.pasteEnd <:+: payload ∧ chunks.flatten = bracketed payload ∧
      ∀ cut ∈ chunks.inits, cut.flatten ≠ ['\x1b']) ∧
      f.buffer.line = "a-x y\x1b[200~ \x1b[201b".toList ∧
      (f.perform .undo).1.buffer.line = "a-b".toList := by
  intro e payload chunks f
  have hidle : e.reader.hasPending = false := rfl
  have hcursor : e.editor.buffer.CursorInLine := by decide
  have hpayload : ¬KeyReader.pasteEnd <:+: payload := by decide
  have hstream : chunks.flatten = bracketed payload := by decide
  have hcut : ∀ cut ∈ chunks.inits, cut.flatten ≠ ['\x1b'] := by decide
  obtain ⟨-, htaken, hinsert, -⟩ := takeChunks_bracketed hidle hcursor hpayload hstream hcut
  have hlayer : (e.editor.digestAll e.queue).1.layer = .insert := by decide
  obtain ⟨hinserted, hundo⟩ := hinsert hlayer
  have hf : f = (e.editor.digestAll e.queue).1.take (.paste payload) :=
    congrArg (fun taken => taken.1.editor) htaken
  refine ⟨⟨hidle, hcursor, hpayload, hstream, hcut⟩, ?_, ?_⟩
  · rw [hf, hinserted.line]
    decide
  · rw [hf, hundo (by decide)]
    decide

end Engine

end LineEditor

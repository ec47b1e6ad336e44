import LineEditor.Charset.Basic
import LineEditor.Proofs.Run

/-!
# Reading does not depend on where a stream is cut

A terminal hands its octets over in reads of any size. A read may end inside a character, inside
the sequence of a key, inside a paste, between a return and the line feed that belongs to it, or
behind a line that has been accepted, and each of the three layers keeps what it has of these for
the next read. None of this can be seen from outside: only the end of a read directly behind an
escape can, because a lone escape is the Escape key.

## Main definitions

* `Intake` is a session on a stream of octets, and `Intake.readAll` reads a cut of the stream.
* `NoLoneEscape` — no read of a cut ends directly behind an escape.
* `Intake.readWhole` reads the stream in one piece and leaves a lone escape open.

## Main results

* `Intake.readWhole_append` — a stream may be read in two parts.
* `Intake.readAll_eq_of_flatten_eq` — two cuts of one stream lead to the same lines and to the
  same session.
-/

namespace LineEditor

/-- A session on a stream of octets: the decoder of the stream, and the engine behind it. -/
structure Intake where
  decoder : Decoder
  engine : Engine

/-- No read of the cut leaves the key reader with a lone escape, which would be taken for the
Escape key at the end of the read. -/
def NoLoneEscape : Decoder → KeyReader → List Octets → Prop
  | _, _, [] => True
  | d, r, octets :: rest =>
    (r.steps (d.decode octets).2).1.pending ≠ ['\x1b'] ∧
      NoLoneEscape (d.decode octets).1 (r.feed (d.decode octets).2).1 rest

instance decidableNoLoneEscape :
    (d : Decoder) → (r : KeyReader) → (cut : List Octets) → Decidable (NoLoneEscape d r cut)
  | _, _, [] => .isTrue trivial
  | d, r, octets :: rest =>
    have := decidableNoLoneEscape (d.decode octets).1 (r.feed (d.decode octets).2).1 rest
    inferInstanceAs (Decidable (_ ∧ _))

theorem KeyReader.pending_eq_escape_iff (r : KeyReader) :
    r.pending = ['\x1b'] ↔ r.mode = .escape := by
  cases h : r.mode <;> simp [pending, h]

/-- At the end of a chunk nothing happens unless a lone escape is held. -/
theorem KeyReader.feed_of_pending_ne {r : KeyReader} {chunk : Text}
    (h : (r.steps chunk).1.pending ≠ ['\x1b']) : r.feed chunk = r.steps chunk := by
  rw [ne_eq, pending_eq_escape_iff] at h
  simp [feed, settle, h]

@[simp]
theorem Decoder.decode_nil (d : Decoder) : d.decode [] = (d, []) := by
  obtain ⟨charset, held⟩ := d
  cases charset <;> rfl

namespace Intake

/-- Takes one read: decodes it, reads its keys, and runs until nothing waits. The second component
holds the lines that are accepted. -/
def read (s : Intake) (octets : Octets) : Intake × List Text :=
  let (decoder, t) := s.decoder.decode octets
  let (engine, lines) := (s.engine.feed t).drain
  (⟨decoder, engine⟩, lines)

/-- Takes several reads, one after the other. -/
def readAll : Intake → List Octets → Intake × List Text
  | s, [] => (s, [])
  | s, octets :: rest =>
    let (s, first) := s.read octets
    let (s, others) := readAll s rest
    (s, first ++ others)

/-- Nothing is left over from earlier: no input waits, and no line is still to be told. -/
def Idle (s : Intake) : Prop :=
  s.engine.queue = [] ∧ s.engine.editor.accepted = none

/-- Takes octets in one piece, and does not look at whether they end in a lone escape. -/
def readWhole (s : Intake) (octets : Octets) : Intake × List Text :=
  let (decoder, t) := s.decoder.decode octets
  let (reader, tokens) := s.engine.reader.steps t
  let (editor, lines) := s.engine.editor.digestAll (s.engine.queue ++ tokens)
  (⟨decoder, { editor, reader, queue := [] }⟩, lines)

theorem read_eq_readWhole {s : Intake} {octets : Octets}
    (h : (s.engine.reader.steps (s.decoder.decode octets).2).1.pending ≠ ['\x1b']) :
    s.read octets = s.readWhole octets := by
  have hfeed := KeyReader.feed_of_pending_ne h
  rw [read, readWhole]
  simp only [Engine.drain_eq_digestAll, Engine.feed, hfeed]

/-- A stream may be read in two parts: what the first part leaves behind goes on with the
second. -/
theorem readWhole_append (s : Intake) (a b : Octets) :
    s.readWhole (a ++ b) =
      (((s.readWhole a).1.readWhole b).1,
        (s.readWhole a).2 ++ ((s.readWhole a).1.readWhole b).2) := by
  simp only [readWhole, Decoder.decode_append, KeyReader.steps_append, ← List.append_assoc,
    Editor.digestAll_append, List.nil_append]

theorem readWhole_nil_of_idle {s : Intake} (h : s.Idle) : s.readWhole [] = (s, []) := by
  obtain ⟨decoder, editor, reader, queue⟩ := s
  obtain ⟨hqueue, haccepted⟩ := h
  simp only at hqueue haccepted
  subst hqueue
  simp [readWhole, Editor.digestAll, Editor.forgetAccepted_of_accepted_eq_none haccepted]

/-- The reads of a cut do what the stream does in one piece. An engine with input left over has to
read at least once, since it is run only behind a read. -/
theorem readAll_eq_readWhole {s : Intake} {cut : List Octets} (hstart : s.Idle ∨ cut ≠ [])
    (hcut : NoLoneEscape s.decoder s.engine.reader cut) :
    s.readAll cut = s.readWhole cut.flatten := by
  induction cut generalizing s with
  | nil =>
    have hidle := hstart.resolve_right (· rfl)
    rw [List.flatten_nil, readWhole_nil_of_idle hidle, readAll]
  | cons octets rest ih =>
    obtain ⟨hfirst, hrest⟩ := hcut
    have hread := read_eq_readWhole hfirst
    -- a read leaves an idle session, with the decoder and the key reader that `hrest` is about
    have hidle : (s.readWhole octets).1.Idle := ⟨rfl, Editor.accepted_digestAll _ _⟩
    rw [KeyReader.feed_of_pending_ne hfirst] at hrest
    rw [readAll, hread, List.flatten_cons, readWhole_append, ← ih (.inl hidle) hrest]

/-- Reading does not depend on where the stream is cut. Two cuts of one stream, in neither of which
a read ends in a lone escape, accept the same lines in the same order and leave the same session
behind: the same decoder, key reader and editor, with all the output that was written, the
history, the layer and the search term. -/
theorem readAll_eq_of_flatten_eq {s : Intake} {cut cut' : List Octets}
    (hstream : cut.flatten = cut'.flatten)
    (hcut : NoLoneEscape s.decoder s.engine.reader cut)
    (hcut' : NoLoneEscape s.decoder s.engine.reader cut')
    (hstart : s.Idle ∨ cut ≠ [] ∧ cut' ≠ []) :
    s.readAll cut = s.readAll cut' := by
  have hfirst : s.Idle ∨ cut ≠ [] := hstart.imp_right And.left
  have hsecond : s.Idle ∨ cut' ≠ [] := hstart.imp_right And.right
  rw [readAll_eq_readWhole hfirst hcut, readAll_eq_readWhole hsecond hcut', hstream]

/-- The octets of `aé`, of the key that moves left, of `b`, and of a return with its line feed, cut
inside the character, inside the sequence of the key and inside the line break. -/
theorem readAll_cut_inside_everything :
    let e : Editor := .new {} { capacity := 50 } (.ofMode .emacs) .enabled
    let s : Intake := ⟨⟨.utf8, []⟩, { editor := e }⟩
    let cut : List Octets := [[0x61, 0xC3], [0xA9, 0x1B, 0x5B], [0x44, 0x62, 0x0D], [0x0A]]
    let cut' : List Octets := [[0x61, 0xC3, 0xA9, 0x1B, 0x5B, 0x44, 0x62, 0x0D, 0x0A]]
    (cut.flatten = cut'.flatten ∧ NoLoneEscape s.decoder s.engine.reader cut ∧
      NoLoneEscape s.decoder s.engine.reader cut' ∧ s.Idle) ∧
      s.readAll cut = s.readAll cut' := by
  refine ⟨⟨rfl, by decide, by decide, rfl, rfl⟩, ?_⟩
  exact readAll_eq_of_flatten_eq rfl (by decide) (by decide) (.inl ⟨rfl, rfl⟩)

end Intake

end LineEditor

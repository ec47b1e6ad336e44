import LineEditor.Engine

/-!
# Runs, one unit of input at a time

A run of the engine takes units of input until one of them accepts a line, and a session runs its
engine again and again until nothing waits. Both are seen here as what the single units do, one
after the other: where a run ends, and what a unit does to a session.

## Main definitions

* `typed` are the units of input of a text.
* `Editor.takes` takes several units, and `Editor.GoesOn` says that no line is accepted meanwhile.
* `Editor.digest` is what a unit does to a session: a line that it accepts is handed over and the
  next read is made ready. `Editor.digestAll` does this for several units.

## Main results

* `Engine.run_eq_some` — a run that accepts a line ends with the unit that accepted it, and
  `Engine.run_eq_none` — one that accepts none takes everything.
* `Engine.drain_eq_digestAll` — running until nothing waits digests what waits.
* `Editor.digestAll_append` — several units may be digested in two parts.
-/

namespace LineEditor

/-- The units of input of a text that is read in one chunk. -/
def typed (t : String) : List Token :=
  (({} : KeyReader).feed t.toList).2

namespace Editor

@[simp]
theorem accepted_forgetAccepted (e : Editor) : e.forgetAccepted.accepted = none := rfl

theorem forgetAccepted_of_accepted_eq_none {e : Editor} (h : e.accepted = none) :
    e.forgetAccepted = e := by
  rw [forgetAccepted, ← h]

/-- Takes several units of input. -/
def takes (e : Editor) (tokens : List Token) : Editor :=
  tokens.foldl take e

@[simp]
theorem takes_nil (e : Editor) : e.takes [] = e := rfl

@[simp]
theorem takes_cons (e : Editor) (token : Token) (tokens : List Token) :
    e.takes (token :: tokens) = (e.take token).takes tokens := rfl

/-- The read goes on while the editor takes the units: none of them accepts a line. -/
def GoesOn : Editor → List Token → Prop
  | e, [] => e.accepted = none
  | e, token :: rest => e.accepted = none ∧ GoesOn (e.take token) rest

instance decidableGoesOn : (e : Editor) → (tokens : List Token) → Decidable (e.GoesOn tokens)
  | _, [] => inferInstanceAs (Decidable (_ = _))
  | e, token :: rest =>
    have := decidableGoesOn (e.take token) rest
    inferInstanceAs (Decidable (_ ∧ _))

theorem GoesOn.accepted_eq_none {e : Editor} {tokens : List Token} (h : e.GoesOn tokens) :
    e.accepted = none := by
  cases tokens with
  | nil => exact h
  | cons token rest => exact h.1

theorem GoesOn.accepted_takes_eq_none {e : Editor} {tokens : List Token} (h : e.GoesOn tokens) :
    (e.takes tokens).accepted = none := by
  induction tokens generalizing e with
  | nil => exact h
  | cons token rest ih => exact ih h.2

/-! ### Sessions -/

/-- What a unit of input does to a session. When it accepts a line, the line is handed over and
the editor made ready for the next read. -/
def digest (e : Editor) (token : Token) : Editor × Option Text :=
  match (e.forgetAccepted.take token).takeAccepted with
  | (e, some line) => (Engine.readyForRead e, some line)
  | (e, none) => (e, none)

/-- What several units of input do to a session, with the lines that they accept. -/
def digestAll : Editor → List Token → Editor × List Text
  | e, [] => (e.forgetAccepted, [])
  | e, token :: rest =>
    let (e, line) := e.digest token
    let (e, lines) := digestAll e rest
    (e, line.toList ++ lines)

theorem digest_of_accepted_eq_none {e : Editor} {token : Token}
    (h : (e.forgetAccepted.take token).accepted = none) :
    e.digest token = (e.forgetAccepted.take token, none) := by
  rw [digest, takeAccepted, h, forgetAccepted_of_accepted_eq_none h]

theorem digest_of_accepted_eq_some {e : Editor} {token : Token} {line : Text}
    (h : (e.forgetAccepted.take token).accepted = some line) :
    e.digest token =
      (Engine.readyForRead (e.forgetAccepted.take token).forgetAccepted, some line) := by
  rw [digest, takeAccepted, h]

/-- Handing a line over does not change the history. -/
theorem history_digest (e : Editor) (token : Token) :
    (e.digest token).1.history = (e.forgetAccepted.take token).history := by
  rw [digest, takeAccepted]
  split
  · next h => obtain ⟨rfl, -⟩ := Prod.mk.inj h; rfl
  · next h => obtain ⟨rfl, -⟩ := Prod.mk.inj h; rfl

theorem digest_forgetAccepted (e : Editor) (token : Token) :
    e.forgetAccepted.digest token = e.digest token := rfl

@[simp]
theorem digestAll_cons (e : Editor) (token : Token) (rest : List Token) :
    e.digestAll (token :: rest) =
      (((e.digest token).1.digestAll rest).1,
        (e.digest token).2.toList ++ ((e.digest token).1.digestAll rest).2) := rfl

@[simp]
theorem accepted_digestAll (e : Editor) (tokens : List Token) :
    (e.digestAll tokens).1.accepted = none := by
  induction tokens generalizing e with
  | nil => rfl
  | cons token rest ih => exact ih _

/-- Several units may be digested in two parts. -/
theorem digestAll_append (e : Editor) (s t : List Token) :
    e.digestAll (s ++ t) =
      (((e.digestAll s).1.digestAll t).1,
        (e.digestAll s).2 ++ ((e.digestAll s).1.digestAll t).2) := by
  induction s generalizing e with
  | nil =>
    cases t with
    | nil => rfl
    | cons token rest => simp [digestAll, digest_forgetAccepted]
  | cons token rest ih => simp [ih]

end Editor

namespace Engine

open Editor

/-- Either all units are taken and the read goes on, or they are taken up to one that accepts a
line. -/
theorem consume_cases {e : Editor} (h : e.accepted = none) (tokens : List Token) :
    e.GoesOn tokens ∧ consume e tokens = (e.takes tokens, []) ∨
      ∃ before token rest line, tokens = before ++ token :: rest ∧ e.GoesOn before ∧
        ((e.takes before).take token).accepted = some line ∧
        consume e tokens = ((e.takes before).take token, rest) := by
  induction tokens generalizing e with
  | nil => exact .inl ⟨h, rfl⟩
  | cons token rest ih =>
    cases haccepted : (e.take token).accepted with
    | some line =>
      refine .inr ⟨[], token, rest, line, rfl, h, haccepted, ?_⟩
      simp [consume, haccepted]
    | none =>
      have hconsume : consume e (token :: rest) = consume (e.take token) rest := by
        simp [consume, haccepted]
      rw [hconsume]
      rcases ih haccepted with ⟨hgoes, heq⟩ | ⟨before, last, after, line, rfl, hgoes, hline, heq⟩
      · exact .inl ⟨⟨h, hgoes⟩, heq⟩
      · exact .inr ⟨token :: before, last, after, line, rfl, ⟨h, hgoes⟩, hline, heq⟩

/-- A run that accepts a line ends with the unit of input that accepted it; what waits behind that
unit is left to the next run. -/
theorem run_eq_some {e e' : Engine} {line : Text} (h : e.run = (e', some line)) :
    ∃ before token rest, e.queue = before ++ token :: rest ∧
      e.editor.forgetAccepted.GoesOn before ∧
      ((e.editor.forgetAccepted.takes before).take token).accepted = some line ∧
      e' = { e with
        editor := readyForRead ((e.editor.forgetAccepted.takes before).take token).forgetAccepted
        queue := rest } := by
  rw [run] at h
  rcases consume_cases (accepted_forgetAccepted e.editor) e.queue with
    ⟨hgoes, heq⟩ | ⟨before, token, rest, line', hqueue, hgoes, hline, heq⟩
  · simp [heq, takeAccepted, hgoes.accepted_takes_eq_none] at h
  · simp only [heq, takeAccepted, hline, Prod.mk.injEq, Option.some.injEq] at h
    obtain ⟨rfl, rfl⟩ := h
    exact ⟨before, token, rest, hqueue, hgoes, hline, rfl⟩

/-- A run that accepts no line takes everything that waits. -/
theorem run_eq_none {e e' : Engine} (h : e.run = (e', none)) :
    e.editor.forgetAccepted.GoesOn e.queue ∧
      e' = { e with editor := e.editor.forgetAccepted.takes e.queue, queue := [] } := by
  rw [run] at h
  rcases consume_cases (accepted_forgetAccepted e.editor) e.queue with
    ⟨hgoes, heq⟩ | ⟨before, token, rest, line, hqueue, hgoes, hline, heq⟩
  · have hnone := hgoes.accepted_takes_eq_none
    simp only [heq, takeAccepted, hnone, Prod.mk.injEq, and_true] at h
    rw [forgetAccepted_of_accepted_eq_none hnone] at h
    exact ⟨hgoes, h.symm⟩
  · simp [heq, takeAccepted, hline] at h

theorem drain_of_run_eq_none {e e' : Engine} (h : e.run = (e', none)) : e.drain = (e', []) := by
  rw [drain]
  split
  · next h' => obtain ⟨rfl, -⟩ := Prod.mk.inj (h'.symm.trans h); rfl
  · next h' => exact absurd (h'.symm.trans h) (by simp)

theorem drain_of_run_eq_some {e e' : Engine} {line : Text} (h : e.run = (e', some line)) :
    e.drain = (e'.drain.1, line :: e'.drain.2) := by
  rw [drain]
  split
  · next h' => exact absurd (h'.symm.trans h) (by simp)
  · next h' =>
    obtain ⟨rfl, hline⟩ := Prod.mk.inj (h'.symm.trans h)
    obtain rfl := Option.some.inj hline
    rfl

/-- Engines whose runs are alike are drained alike. -/
theorem drain_congr {e f : Engine} (h : e.run = f.run) : e.drain = f.drain := by
  rcases hf : f.run with ⟨e', _ | line⟩
  · rw [drain_of_run_eq_none hf, drain_of_run_eq_none (h.trans hf)]
  · rw [drain_of_run_eq_some hf, drain_of_run_eq_some (h.trans hf)]

/-- Running until nothing waits digests what waits. -/
theorem drain_eq_digestAll (e : Engine) :
    e.drain =
      ({ e with editor := (e.editor.digestAll e.queue).1, queue := [] },
        (e.editor.digestAll e.queue).2) := by
  obtain ⟨editor, reader, queue⟩ := e
  induction queue generalizing editor with
  | nil => exact drain_of_run_eq_none rfl
  | cons token rest ih =>
    cases h : (editor.forgetAccepted.take token).accepted with
    | none =>
      -- the run goes on with the next unit, so that it is a run of what is left
      have hrun : (Engine.mk editor reader (token :: rest)).run =
          (Engine.mk (editor.forgetAccepted.take token) reader rest).run := by
        simp [run, consume, h, forgetAccepted_of_accepted_eq_none h]
      rw [drain_congr hrun, ih, digestAll_cons, digest_of_accepted_eq_none h]
      rfl
    | some line =>
      have hrun : (Engine.mk editor reader (token :: rest)).run =
          (Engine.mk (readyForRead (editor.forgetAccepted.take token).forgetAccepted) reader rest,
            some line) := by
        simp [run, consume, h, takeAccepted]
      rw [drain_of_run_eq_some hrun, ih, digestAll_cons, digest_of_accepted_eq_some h]
      rfl

end Engine

end LineEditor

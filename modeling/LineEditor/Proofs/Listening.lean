import LineEditor.Proofs.Run
import LineEditor.Session

/-!
# What a session does for its reads

A read is started, and its listener is told of input. Both are put into equations here, one for each
way in which they can turn out: whether the read waits for its line at all, and whether a run of the
engine gives that line.

## Main results

* `Session.hear_of_wanted_eq_none`, `Session.hear_of_run_eq_none`, `Session.hear_of_run_eq_some` —
  what the listener of a read does.
* `Session.start_of_run_eq_none`, `Session.start_of_run_eq_some` — how a read starts, with the reads
  that follow from it at once.
-/

namespace LineEditor

/-- An engine that is about to read a line with the given prompt. -/
def Engine.beginRead (e : Engine) (prompt : Prompt) (width : Nat) : Engine :=
  e.onEditor fun editor => (editor.setWidth width).beginLine prompt

/-- A read that finds its line takes at least one unit of what waits. -/
theorem Engine.length_queue_lt_of_beginRead {e e' : Engine} {prompt : Prompt} {width : Nat}
    {line : Text} (h : (e.beginRead prompt width).run = (e', some line)) :
    e'.takeOutput.1.queue.length < e.queue.length := by
  have hlt : e'.queue.length < (e.beginRead prompt width).queue.length := length_queue_run_lt h
  exact hlt

namespace LineReader

variable {κ : Type} {r : LineReader κ}

/-- To begin a read is to run the engine on what waits. -/
theorem begin_of_run {prompt : Prompt} {width : Nat} {e : Engine} {line : Option Text}
    (h : (r.engine.beginRead prompt width).run = (e, line)) :
    r.begin prompt width = ({ r with engine := e.takeOutput.1 }, e.takeOutput.2, line) := by
  rw [Engine.beginRead] at h
  rw [begin, h]

theorem wanted_eq_none {n : Nat} (h : r.waiting = List.replicate n none) (read : Nat) :
    r.wanted? read = none := by
  rw [wanted?, h, List.getElem?_replicate]
  split
  · rfl
  · rfl

theorem length_of_waiting {n : Nat} (h : r.waiting = List.replicate n none) :
    r.waiting.length = n := by
  rw [h, List.length_replicate]

/-- One more read has started, and has found its line. -/
theorem concat_none_of_waiting {n : Nat} (h : r.waiting = List.replicate n none) :
    r.waiting ++ [none] = List.replicate (n + 1) none := by
  rw [h, List.replicate_succ']

/-- The newest read, the only one that waited, gets its line. -/
theorem set_none_of_waiting {n : Nat} {k : κ}
    (h : r.waiting = List.replicate n none ++ [some k]) :
    r.waiting.set n none = List.replicate (n + 1) none := by
  rw [h, List.replicate_succ']
  simp

/-- When only the newest read waits for its line, no other one does. -/
theorem wanted_eq_some_iff {n read : Nat} {k k' : κ}
    (h : r.waiting = List.replicate n none ++ [some k]) :
    r.wanted? read = some k' ↔ read = n ∧ k = k' := by
  rw [wanted?, h]
  by_cases hlt : read < n
  · rw [List.getElem?_append_left (by simpa using hlt), List.getElem?_replicate, if_pos hlt]
    simp [Nat.ne_of_lt hlt]
  · rw [List.getElem?_append_right (by simpa using hlt), List.length_replicate,
      List.getElem?_singleton]
    by_cases heq : read = n
    · simp [heq]
    · rw [if_neg (by omega)]
      simp [heq]

/-- A read that is told to wait no longer does not wait. -/
theorem wanted_of_set {e : Engine} {number read : Nat} {k : κ}
    (h : LineReader.wanted? ⟨e, r.waiting.set number none⟩ read = some k) :
    read ≠ number ∧ r.wanted? read = some k := by
  rw [wanted?, List.getElem?_set] at h
  split at h
  · split at h
    · cases h
    · cases h
  · next hne => exact ⟨fun heq => hne heq.symm, h⟩

end LineReader

@[simp]
theorem Connection.onInput_send {η : Type} (c : Connection η) (t : Text) :
    (c.send t).onInput = c.onInput := by
  by_cases h : c.isBroken = true ∧ c.charset.encode t ≠ []
  · simp [send, write, h]
  · simp [send, write, h]

namespace Session

variable {κ : Type} {next : κ → Option (Prompt × κ)} {w : OnlineSession κ}

/-! ### Input -/

section Hear

variable {read : Nat} {chunk : Text} {k : κ} {e : Engine}

/-- For a read that has its line, what comes in is kept. -/
theorem hear_of_wanted_eq_none (h : w.state.reader.wanted? read = none) (chunk : Text) :
    hear next (.read read) (.input chunk) w =
      settle { w.state.reader with engine := w.state.reader.engine.feed chunk } [] w := by
  rw [hear, LineReader.receive, h]

/-- A read that waits takes all that there is, as long as that gives no line. -/
theorem hear_of_run_eq_none (h : w.state.reader.wanted? read = some k)
    (hrun : (w.state.reader.engine.feed chunk).run = (e, none)) :
    hear next (.read read) (.input chunk) w =
      settle { w.state.reader with engine := e.takeOutput.1 } e.takeOutput.2 w := by
  rw [hear, LineReader.receive, h, hrun]

/-- A read that gets its line waits no longer. -/
theorem hear_of_run_eq_some {line : Text} (h : w.state.reader.wanted? read = some k)
    (hrun : (w.state.reader.engine.feed chunk).run = (e, some line)) :
    hear next (.read read) (.input chunk) w =
      deliverLine next k line
        (settle ⟨e.takeOutput.1, w.state.reader.waiting.set read none⟩ e.takeOutput.2 w) := by
  rw [hear, LineReader.receive, h, hrun]

end Hear

/-! ### Starting a read -/

section Start

variable {prompt : Prompt} {k : κ} {e : Engine}

/-- A read that starts and finds no line listens for it. -/
theorem start_of_run_eq_none
    (h : (w.state.reader.engine.beginRead prompt w.line.size.columns).run = (e, none)) :
    start next prompt k w =
      listen (some k)
        (settle { w.state.reader with engine := e.takeOutput.1 } e.takeOutput.2 w) := by
  rw [start, startWithin, LineReader.begin_of_run h]

/-- How much fuel there is does not matter, as long as there is as much of it as input that waits.
-/
theorem startWithin_congr {m n : Nat} (hm : w.state.reader.engine.queue.length ≤ m)
    (hn : w.state.reader.engine.queue.length ≤ n) :
    startWithin next m prompt k w = startWithin next n prompt k w := by
  induction m generalizing n prompt k w with
  | zero =>
    rcases hrun : (w.state.reader.engine.beginRead prompt w.line.size.columns).run with
      ⟨e, _ | line⟩
    · rw [startWithin, startWithin, LineReader.begin_of_run hrun]
    · have hlt := Engine.length_queue_lt_of_beginRead hrun
      omega
  | succ m ih =>
    rcases hrun : (w.state.reader.engine.beginRead prompt w.line.size.columns).run with
      ⟨e, _ | line⟩
    · rw [startWithin, startWithin, LineReader.begin_of_run hrun]
    · have hlt := Engine.length_queue_lt_of_beginRead hrun
      obtain ⟨n, rfl⟩ := Nat.exists_eq_succ_of_ne_zero (n := n) (by omega)
      rw [startWithin, startWithin, LineReader.begin_of_run hrun]
      cases next k with
      | none => rfl
      | some following =>
        have hm' : e.takeOutput.1.queue.length ≤ m := by omega
        have hn' : e.takeOutput.1.queue.length ≤ n := by omega
        exact ih hm' hn'

/-- A read that starts and finds its line is followed by the next one at once. -/
theorem start_of_run_eq_some {line : Text}
    (h : (w.state.reader.engine.beginRead prompt w.line.size.columns).run = (e, some line)) :
    start next prompt k w =
      let w := report (.line line)
        (listen none (settle { w.state.reader with engine := e.takeOutput.1 } e.takeOutput.2 w))
      (next k).elim w fun (prompt, k) => start next prompt k w := by
  have hlt := Engine.length_queue_lt_of_beginRead h
  rw [start, startWithin, LineReader.begin_of_run h]
  cases hfuel : w.state.reader.engine.queue.length with
  | zero => omega
  | succ fuel =>
    cases hnext : next k with
    | none => rfl
    | some following =>
      have hle : e.takeOutput.1.queue.length ≤ fuel := by omega
      exact startWithin_congr hle (Nat.le_refl _)

end Start

end Session

end LineEditor

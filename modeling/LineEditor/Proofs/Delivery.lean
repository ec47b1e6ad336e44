import LineEditor.Proofs.Listening
import LineEditor.Proofs.Output

/-!
# When a line is delivered

Reads of a session are started one after the other, each once the line of the one before was
delivered: at once, when that line is handed over, or at any time later. Meanwhile input comes in
chunks that end anywhere. So a line may be found by the listener of its read, or when its read
starts, or when its read is started from within the delivery of the line before.

None of this can be told from what is delivered. A single engine that is fed all input, and reads
one line after the other from it, gives the same lines and writes the same output.

## Main definitions

* `Engine.serve` is what several reads of a single engine give.
* `Session.Move` are the things that happen to a session, and `Session.play` is what they lead to.

## Main results

* `Engine.serve_feed_of_length_eq`, `Engine.serve_feed_of_length_lt` — more input.
* `Session.served_play` — what all moves keep.
* `Session.delivered_as_served` — the lines, the engine, the output and the reads of a session.
-/

namespace LineEditor

namespace Engine

variable {e e' : Engine} {chunk : Text}

/-- Feeds several chunks. -/
def feeds (e : Engine) (chunks : List Text) : Engine :=
  chunks.foldl feed e

/-- What a number of reads give, the first of them under the first prompt and so on. A read that
finds no line is the last one. -/
def serve (prompts : Nat → Prompt) (width : Nat) : Nat → Engine → Engine × List Text
  | 0, e => (e, [])
  | n + 1, e =>
    let before := serve prompts width n e
    if before.2.length < n then before
    else
      match (before.1.beginRead (prompts n) width).run with
      | (served, none) => (served, before.2)
      | (served, some line) => (served, before.2 ++ [line])

/-! ### More input -/

/-- Units that come behind those which are consumed do not matter unless they are reached. -/
theorem consume_append {f : Editor} (h : f.accepted = none) (s t : List Token) :
    consume f (s ++ t) =
      if (consume f s).1.accepted.isSome then ((consume f s).1, (consume f s).2 ++ t)
      else consume (consume f s).1 t := by
  induction s generalizing f with
  | nil => simp [consume, h]
  | cons token rest ih =>
    rw [List.cons_append, consume, consume]
    cases haccepted : (f.take token).accepted with
    | some line => simp [haccepted]
    | none => simpa using ih haccepted

theorem run_of_consume {f : Editor} {rest : List Token}
    (h : consume e.editor.forgetAccepted e.queue = (f, rest)) :
    e.run = match f.accepted with
      | some line => ({ e with editor := readyForRead f.forgetAccepted, queue := rest }, some line)
      | none => ({ e with editor := f, queue := rest }, none) := by
  rw [run, h]
  cases haccepted : f.accepted with
  | some line => simp [Editor.takeAccepted, haccepted]
  | none =>
    simp [Editor.takeAccepted, haccepted, Editor.forgetAccepted_of_accepted_eq_none haccepted]

/-- A line that was found is found with more input behind it. -/
theorem run_feed_of_some {line : Text} (h : e.run = (e', some line)) (chunk : Text) :
    (e.feed chunk).run = (e'.feed chunk, some line) := by
  rcases hconsume : consume e.editor.forgetAccepted e.queue with ⟨f, rest⟩
  rw [run_of_consume hconsume] at h
  cases haccepted : f.accepted with
  | none => simp [haccepted] at h
  | some found =>
    rw [haccepted] at h
    obtain ⟨rfl, hline⟩ := Prod.mk.inj h
    have happend : consume (e.feed chunk).editor.forgetAccepted (e.feed chunk).queue =
        (f, rest ++ (e.reader.feed chunk).2) := by
      have hsplit := consume_append (Editor.accepted_forgetAccepted e.editor) e.queue
        (e.reader.feed chunk).2
      rw [hconsume, haccepted] at hsplit
      exact hsplit
    rw [run_of_consume happend, haccepted, ← hline]
    rfl

/-- A run that finds no line goes on with more input. -/
theorem run_feed_of_none (h : e.run = (e', none)) (chunk : Text) :
    (e.feed chunk).run = (e'.feed chunk).run := by
  rcases hconsume : consume e.editor.forgetAccepted e.queue with ⟨f, rest⟩
  obtain ⟨-, htaken⟩ := run_eq_none h
  rw [run_of_consume hconsume] at h
  cases haccepted : f.accepted with
  | some found => simp [haccepted] at h
  | none =>
    rw [haccepted] at h
    have hengine : { e with editor := f, queue := rest } = e' := (Prod.mk.inj h).1
    have hrest : rest = [] := (congrArg queue hengine).trans (congrArg queue htaken)
    have happend : consume (e.feed chunk).editor.forgetAccepted (e.feed chunk).queue =
        consume f (e.reader.feed chunk).2 := by
      have hsplit := consume_append (Editor.accepted_forgetAccepted e.editor) e.queue
        (e.reader.feed chunk).2
      rw [hconsume, haccepted] at hsplit
      exact hsplit
    obtain rfl := hengine
    let left : Engine := { e with editor := f, queue := rest }
    have hagain : consume (left.feed chunk).editor.forgetAccepted (left.feed chunk).queue =
        consume f (e.reader.feed chunk).2 := by
      change consume f.forgetAccepted (rest ++ (e.reader.feed chunk).2) = _
      rw [hrest, Editor.forgetAccepted_of_accepted_eq_none haccepted, List.nil_append]
    rcases hmore : consume f (e.reader.feed chunk).2 with ⟨g, others⟩
    rw [run_of_consume (happend.trans hmore), run_of_consume (hagain.trans hmore)]
    rfl

section Serve

variable {prompts : Nat → Prompt} {width n : Nat}

/-- After a read without a line there is no other one. -/
theorem serve_succ_of_lt (h : (serve prompts width n e).2.length < n) :
    serve prompts width (n + 1) e = serve prompts width n e := by
  rw [serve]
  exact if_pos h

/-- One more read, when all reads so far have found their lines. -/
theorem serve_succ (h : (serve prompts width n e).2.length = n) :
    serve prompts width (n + 1) e =
      match ((serve prompts width n e).1.beginRead (prompts n) width).run with
      | (served, none) => (served, (serve prompts width n e).2)
      | (served, some line) => (served, (serve prompts width n e).2 ++ [line]) := by
  rw [serve]
  exact if_neg (Nat.not_lt.mpr (Nat.le_of_eq h.symm))

theorem length_serve_le (prompts : Nat → Prompt) (width n : Nat) (e : Engine) :
    (serve prompts width n e).2.length ≤ n := by
  induction n with
  | zero => exact Nat.le_refl _
  | succ n ih =>
    obtain hlt | hall := Nat.lt_or_eq_of_le ih
    · rw [serve_succ_of_lt hlt]
      exact Nat.le_succ_of_le ih
    · rw [serve_succ hall]
      split
      · exact Nat.le_succ_of_le ih
      · rw [List.length_append]
        exact Nat.succ_le_succ ih

/-- As long as all reads find their lines, more input is left behind them. -/
theorem serve_feed_of_length_eq (h : (serve prompts width n e).2.length = n) (chunk : Text) :
    serve prompts width n (e.feed chunk) =
      ((serve prompts width n e).1.feed chunk, (serve prompts width n e).2) := by
  induction n with
  | zero => rfl
  | succ n ih =>
    have hall : (serve prompts width n e).2.length = n := by
      obtain hlt | hall := Nat.lt_or_eq_of_le (length_serve_le prompts width n e)
      · rw [serve_succ_of_lt hlt] at h
        omega
      · exact hall
    have hfed := ih hall
    have hallFed : (serve prompts width n (e.feed chunk)).2.length = n := by rw [hfed, hall]
    rw [serve_succ hall] at h ⊢
    rw [serve_succ hallFed, hfed]
    rcases hrun : ((serve prompts width n e).1.beginRead (prompts n) width).run with
      ⟨served, _ | line⟩
    · rw [hrun] at h
      exact absurd h (by simp [hall])
    · have hrunFed := run_feed_of_some hrun chunk
      change (((serve prompts width n e).1.feed chunk).beginRead (prompts n) width).run = _
        at hrunFed
      rw [hrunFed]

/-- A read that was without a line goes on with more input. -/
theorem serve_feed_of_length_lt (h : (serve prompts width n e).2.length = n)
    (hopen : (serve prompts width (n + 1) e).2.length = n) (chunk : Text) :
    serve prompts width (n + 1) (e.feed chunk) =
      match ((serve prompts width (n + 1) e).1.feed chunk).run with
      | (served, none) => (served, (serve prompts width (n + 1) e).2)
      | (served, some line) => (served, (serve prompts width (n + 1) e).2 ++ [line]) := by
  have hfed := serve_feed_of_length_eq h chunk
  have hallFed : (serve prompts width n (e.feed chunk)).2.length = n := by rw [hfed, h]
  rw [serve_succ h] at hopen ⊢
  rw [serve_succ hallFed, hfed]
  rcases hrun : ((serve prompts width n e).1.beginRead (prompts n) width).run with
    ⟨served, _ | line⟩
  · have hrunFed := run_feed_of_none hrun chunk
    change (((serve prompts width n e).1.feed chunk).beginRead (prompts n) width).run = _ at hrunFed
    rw [hrunFed]
  · rw [hrun] at hopen
    exact absurd hopen (by simp [h])

/-- More reads do not change the lines of the first ones. -/
theorem take_serve_add (prompts : Nat → Prompt) (width n more : Nat) (e : Engine) :
    (serve prompts width (n + more) e).2.take n = (serve prompts width n e).2 := by
  induction more with
  | zero => exact List.take_of_length_le (length_serve_le prompts width n e)
  | succ more ih =>
    rw [← Nat.add_assoc]
    obtain hlt | hall := Nat.lt_or_eq_of_le (length_serve_le prompts width (n + more) e)
    · rw [serve_succ_of_lt hlt]
      exact ih
    · rw [serve_succ hall]
      split
      · exact ih
      · rw [List.take_append_of_le_length (by omega)]
        exact ih

end Serve

end Engine

/-! ### What is sent -/

theorem Charset.encode_append (charset : Charset) (s t : Text) :
    charset.encode (s ++ t) = charset.encode s ++ charset.encode t := by
  cases charset with
  | utf8 => exact Utf8.encode_append s t
  | latin1 => exact List.map_append

namespace Connection

variable {η : Type}

/-- A connection over which a text was sent, whoever listens by now. -/
structure Sent (c : Connection η) (t : Text) (c' : Connection η) : Prop where
  size : c'.size = c.size
  charset : c'.charset = c.charset
  isBroken : c'.isBroken = c.isBroken
  written : c'.written = (c.send t).written

variable {c c' : Connection η} {s t : Text}

theorem send_of_isBroken (h : c.isBroken = true) (t : Text) : c.send t = c := by
  rw [send, write]
  by_cases hnil : c.charset.encode t = []
  · simp [hnil]
  · simp [h, hnil]

theorem send_nil (c : Connection η) : c.send [] = c := by
  have hencode : c.charset.encode [] = [] := by
    cases c.charset with
    | utf8 => exact Utf8.encode_nil
    | latin1 => rfl
  simp [send, write, hencode]

theorem Sent.send (h : c.Sent s c') (t : Text) : c.Sent (s ++ t) (c'.send t) := by
  cases hbroken : c.isBroken with
  | true =>
    have hbroken' := h.isBroken.trans hbroken
    rw [send_of_isBroken hbroken']
    refine ⟨h.size, h.charset, h.isBroken, ?_⟩
    rw [h.written, send_of_isBroken hbroken, send_of_isBroken hbroken]
  | false =>
    have hbroken' := h.isBroken.trans hbroken
    have hsend : c'.send t = { c' with written := c'.written ++ c'.charset.encode t } := by
      simp [Connection.send, write, hbroken']
    rw [hsend]
    refine ⟨h.size, h.charset, h.isBroken, ?_⟩
    rw [send_of_not_isBroken _ _ hbroken, Charset.encode_append]
    change c'.written ++ c'.charset.encode t = _
    rw [h.written, h.charset, send_of_not_isBroken _ _ hbroken, List.append_assoc]

end Connection

namespace Session

/-! ### Schedules -/

/-- What happens to a session: a chunk of input comes in, or the next read is started. -/
inductive Move
  | chunk (t : Text)
  | call

/-- The input of a move. -/
def Move.chunk? : Move → Option Text
  | .chunk t => some t
  | .call => none

variable (prompts : Nat → Prompt) (inside : Nat → Bool)

/-- Some lines are handed over to one who starts the next read at once. -/
def following (k : Nat) : Option (Prompt × Nat) :=
  if inside k then some (prompts (k + 1), k + 1) else none

/-- One move. A read is only started when the line of the one before was delivered. -/
def move (w : OnlineSession Nat) : Move → OnlineSession Nat
  | .chunk t => (type (following prompts inside) t w).1
  | .call =>
    let calls := w.state.reader.waiting.length
    if w.state.reader.waiting.all Option.isNone then
      start (following prompts inside) (prompts calls) calls w
    else w

/-- A session that starts with a read, and what happens after that. -/
def play (e : Engine) (line : Connection Listener) (moves : List Move) : OnlineSession Nat :=
  moves.foldl (move prompts inside)
    (start (following prompts inside) (prompts 0) 0 (online e line))

/-! ### What all moves keep -/

/-- What a session has in common with a single engine that was served: the lines, the engine but for
output that waits, and what was written together with what waits. -/
structure Agrees (line : Connection Listener) (served : Engine × List Text)
    (w : OnlineSession Nat) : Prop where
  events : w.state.events = served.2.map .line
  engine : w.state.reader.engine.takeOutput.1 = served.1.takeOutput.1
  sent : ∃ sent, line.Sent sent w.line ∧ served.1.output = sent ++ w.state.reader.engine.output

variable {prompts inside} {line : Connection Listener} {e : Engine} {w : OnlineSession Nat}
  {n : Nat}

theorem Agrees.size_eq {served : Engine × List Text} (h : Agrees line served w) :
    w.line.size = line.size := by
  obtain ⟨sent, hsent, -⟩ := h.sent
  exact hsent.size

/-- The engine has done something and run, and the output that this gave was sent. -/
theorem Agrees.run {f : Engine → Engine} {served : Engine × List Text}
    (h : Agrees line served w) (hf : ∀ e earlier, f (e.after earlier) = (f e).after earlier)
    {r : Engine} {found : Option Text} (hrun : (f w.state.reader.engine).run = (r, found))
    (waiting : List (Option Nat)) :
    ∃ r', (f served.1).run = (r', found) ∧
      Agrees line (r', served.2) (settle ⟨r.takeOutput.1, waiting⟩ r.takeOutput.2 w) := by
  obtain ⟨sent, hsent, houtput⟩ := h.sent
  -- both engines run like the one that is left of them when their output is taken
  obtain ⟨hfound, hengine, hmore⟩ := Engine.run_takeOutput hf w.state.reader.engine
  obtain ⟨hfound', hengine', hmore'⟩ := Engine.run_takeOutput hf served.1
  rw [hrun, h.engine] at hfound hengine hmore
  refine ⟨(f served.1).run.1, Prod.ext rfl (hfound'.trans hfound.symm), ⟨h.events, ?_, ?_⟩⟩
  · exact hengine.trans hengine'.symm
  · refine ⟨sent ++ r.output, hsent.send r.output, ?_⟩
    rw [hmore', houtput, List.append_assoc, ← hmore]
    exact (List.append_nil _).symm

/-- A line was delivered. -/
theorem Agrees.report {served : Engine × List Text} (h : Agrees line served w) (found : Text) :
    Agrees line (served.1, served.2 ++ [found]) (report (.line found) w) := by
  refine ⟨?_, h.engine, h.sent⟩
  rw [List.map_append, ← h.events]
  rfl

/-- A read listens. -/
theorem Agrees.listen {served : Engine × List Text} (h : Agrees line served w)
    (wanted : Option Nat) : Agrees line served (listen wanted w) := by
  obtain ⟨sent, hsent, houtput⟩ := h.sent
  exact ⟨h.events, h.engine, sent,
    ⟨hsent.size, hsent.charset, hsent.isBroken, hsent.written⟩, houtput⟩

/-- The first `n` reads have their lines, and no other read was started. -/
structure Idle (prompts : Nat → Prompt) (line : Connection Listener) (e : Engine) (n : Nat)
    (w : OnlineSession Nat) : Prop where
  agrees : Agrees line (e.serve prompts line.size.columns n) w
  all : (e.serve prompts line.size.columns n).2.length = n
  waiting : w.state.reader.waiting = List.replicate n none

/-- How a session stands after its first read was started: the newest read waits for its line and
listens, or it has its line and was not followed by another read at once. No output waits. -/
inductive Served (prompts : Nat → Prompt) (inside : Nat → Bool) (line : Connection Listener)
    (e : Engine) (w : OnlineSession Nat) : Prop
  | armed (n : Nat) (agrees : Agrees line (e.serve prompts line.size.columns (n + 1)) w)
      (all : (e.serve prompts line.size.columns n).2.length = n)
      (before : (e.serve prompts line.size.columns (n + 1)).2.length = n)
      (waiting : w.state.reader.waiting = List.replicate n none ++ [some n])
      (listens : w.line.onInput = some (.read n))
      (taken : w.state.reader.engine.takeOutput.1 = w.state.reader.engine)
  | fired (n : Nat) (idle : Idle prompts line e (n + 1) w)
      (listens : w.line.onInput = some (.read n))
      (taken : w.state.reader.engine.takeOutput.1 = w.state.reader.engine)
      (last : inside n = false)

/-- There are as many reads as were started. -/
theorem Idle.length_waiting (h : Idle prompts line e n w) : w.state.reader.waiting.length = n :=
  LineReader.length_of_waiting h.waiting

/-- A chunk that comes while no read waits is kept for the next one. -/
theorem Idle.feed (h : Idle prompts line e n w) (t : Text) :
    Idle prompts line (e.feed t) n
      (settle { w.state.reader with engine := w.state.reader.engine.feed t } [] w) := by
  have hfed := Engine.serve_feed_of_length_eq h.all t
  refine ⟨?_, ?_, h.waiting⟩
  · rw [hfed]
    obtain ⟨sent, hsent, houtput⟩ := h.agrees.sent
    refine ⟨h.agrees.events, congrArg (Engine.feed · t) h.agrees.engine, sent, ?_, houtput⟩
    rw [← List.append_nil sent]
    exact hsent.send []
  · rw [hfed]
    exact h.all

/-- A read is started that finds no line. -/
theorem Idle.armed (h : Idle prompts line e n w) {r : Engine}
    (hrun : (w.state.reader.engine.beginRead (prompts n) w.line.size.columns).run = (r, none)) :
    Served prompts inside line e (listen (some n)
      (settle { w.state.reader with engine := r.takeOutput.1 } r.takeOutput.2 w)) := by
  rw [h.agrees.size_eq] at hrun
  obtain ⟨r', hserved, hagrees⟩ := h.agrees.run (f := (·.beginRead (prompts n) line.size.columns))
    (fun _ _ => rfl) hrun w.state.reader.waiting
  have hnext : e.serve prompts line.size.columns (n + 1) =
      (r', (e.serve prompts line.size.columns n).2) := by
    rw [Engine.serve_succ h.all, hserved]
  refine .armed n (hnext ▸ hagrees.listen (some n)) h.all ?_ ?_ ?_ rfl
  · rw [hnext]
    exact h.all
  · exact congrArg (· ++ [some n]) h.waiting
  · exact congrArg (fun number => some (Listener.read number)) h.length_waiting

/-- A read is started that finds its line. -/
theorem Idle.replayed (h : Idle prompts line e n w) {r : Engine} {found : Text}
    (hrun : (w.state.reader.engine.beginRead (prompts n) w.line.size.columns).run =
      (r, some found)) :
    Idle prompts line e (n + 1) (report (.line found) (listen none
      (settle { w.state.reader with engine := r.takeOutput.1 } r.takeOutput.2 w))) := by
  rw [h.agrees.size_eq] at hrun
  obtain ⟨r', hserved, hagrees⟩ := h.agrees.run (f := (·.beginRead (prompts n) line.size.columns))
    (fun _ _ => rfl) hrun w.state.reader.waiting
  have hnext : e.serve prompts line.size.columns (n + 1) =
      (r', (e.serve prompts line.size.columns n).2 ++ [found]) := by
    rw [Engine.serve_succ h.all, hserved]
  refine ⟨hnext ▸ (hagrees.listen none).report found, ?_, ?_⟩
  · rw [hnext, List.length_append, h.all]
    rfl
  · exact LineReader.concat_none_of_waiting h.waiting

/-- The next read is started, with the reads that follow at once. Each of these is started by a line
that was found in what waits, so that less and less waits. -/
theorem Idle.served_start (h : Idle prompts line e n w) :
    Served prompts inside line e (start (following prompts inside) (prompts n) n w) := by
  induction hsize : w.state.reader.engine.queue.length using Nat.strongRecOn generalizing n w with
  | ind size ih =>
    rcases hrun : (w.state.reader.engine.beginRead (prompts n) w.line.size.columns).run with
      ⟨r, _ | found⟩
    · rw [start_of_run_eq_none hrun]
      exact h.armed hrun
    · have hlt := Engine.length_queue_lt_of_beginRead hrun
      have hidle := h.replayed hrun
      rw [start_of_run_eq_some hrun, following]
      cases hinside : inside n with
      | true => exact ih _ (hsize ▸ hlt) hidle rfl
      | false =>
        have hlistens := congrArg (fun number => some (Listener.read number)) h.length_waiting
        exact .fired n hidle hlistens rfl hinside

/-- The line of a read is handed over, and the next read may be started at once. -/
theorem Idle.served_deliverLine {found : Text}
    (h : Idle prompts line e (n + 1) (report (.line found) w))
    (hlistens : w.line.onInput = some (.read n))
    (htaken : w.state.reader.engine.takeOutput.1 = w.state.reader.engine) :
    Served prompts inside line e (deliverLine (following prompts inside) n found w) := by
  rw [deliverLine, following]
  cases hinside : inside n with
  | true => exact h.served_start
  | false => exact .fired n h hlistens htaken hinside

theorem Served.chunk (h : Served prompts inside line e w) (t : Text) :
    Served prompts inside line (e.feed t) (move prompts inside w (.chunk t)) := by
  cases h with
  | armed n agrees all before waiting listens taken =>
    have hwanted := (LineReader.wanted_eq_some_iff waiting).mpr ⟨rfl, rfl⟩
    have hall : (Engine.serve prompts line.size.columns n (e.feed t)).2.length = n := by
      rw [Engine.serve_feed_of_length_eq all, all]
    have hfed := Engine.serve_feed_of_length_lt all before t
    rw [move, type, listens, Wired.tell]
    rcases hrun : (w.state.reader.engine.feed t).run with ⟨r, _ | found⟩
    · rw [hear_of_run_eq_none hwanted hrun]
      obtain ⟨r', hserved, hagrees⟩ := agrees.run (f := (·.feed t)) (fun _ _ => rfl) hrun
        w.state.reader.waiting
      rw [hserved] at hfed
      refine .armed n (hfed ▸ hagrees) hall ?_ waiting ?_ rfl
      · rw [hfed]
        exact before
      · exact (Connection.onInput_send _ _).trans listens
    · rw [hear_of_run_eq_some hwanted hrun]
      obtain ⟨r', hserved, hagrees⟩ := agrees.run (f := (·.feed t)) (fun _ _ => rfl) hrun
        (w.state.reader.waiting.set n none)
      rw [hserved] at hfed
      refine Idle.served_deliverLine ⟨hfed ▸ hagrees.report found, ?_, ?_⟩ ?_ rfl
      · rw [hfed, List.length_append, before]
        rfl
      · exact LineReader.set_none_of_waiting waiting
      · exact (Connection.onInput_send _ _).trans listens
  | fired n idle listens taken last =>
    have hwanted := LineReader.wanted_eq_none idle.waiting n
    rw [move, type, listens, Wired.tell, hear_of_wanted_eq_none hwanted]
    exact .fired n (idle.feed t) ((Connection.onInput_send _ _).trans listens)
      (congrArg (Engine.feed · t) taken) last

theorem Served.call (h : Served prompts inside line e w) :
    Served prompts inside line e (move prompts inside w .call) := by
  cases h with
  | armed n agrees all before waiting listens taken =>
    have hbusy : w.state.reader.waiting.all Option.isNone = false := by
      rw [waiting]
      simp
    rw [move, hbusy]
    exact .armed n agrees all before waiting listens taken
  | fired n idle listens taken last =>
    have hfree : w.state.reader.waiting.all Option.isNone = true := by
      rw [idle.waiting]
      simp
    rw [move, hfree, idle.length_waiting]
    exact idle.served_start

theorem idle_online (prompts : Nat → Prompt) (e : Engine) (line : Connection Listener) :
    Idle prompts line e 0 (online e line) := by
  refine ⟨⟨rfl, rfl, [], ⟨rfl, rfl, rfl, ?_⟩, rfl⟩, rfl, rfl⟩
  rw [Connection.send_nil]
  rfl

/-- All that can happen to a session that has started its first read. -/
theorem served_play (prompts : Nat → Prompt) (inside : Nat → Bool) (e : Engine)
    (line : Connection Listener) (moves : List Move) :
    Served prompts inside line (e.feeds (moves.filterMap Move.chunk?))
      (play prompts inside e line moves) := by
  suffices h : ∀ (e : Engine) (w : OnlineSession Nat), Served prompts inside line e w →
      Served prompts inside line (e.feeds (moves.filterMap Move.chunk?))
        (moves.foldl (move prompts inside) w) from
    h e _ (idle_online prompts e line).served_start
  induction moves with
  | nil => exact fun e w h => h
  | cons m rest ih =>
    intro e w h
    cases m with
    | chunk t => exact ih (e.feed t) _ (h.chunk t)
    | call => exact ih e _ h.call

theorem Agrees.of_taken {served : Engine × List Text} (h : Agrees line served w)
    (htaken : w.state.reader.engine.takeOutput.1 = w.state.reader.engine) :
    w.state.reader.engine = served.1.takeOutput.1 ∧
      w.line.written = (line.send served.1.output).written := by
  obtain ⟨sent, hsent, houtput⟩ := h.sent
  have hnothing : w.state.reader.engine.output = [] := by
    rw [← htaken]
    rfl
  rw [hnothing, List.append_nil] at houtput
  exact ⟨htaken.symm.trans h.engine, houtput ▸ hsent.written⟩

/-- It makes no difference to what is delivered when the reads after the first one are started, be
it from within the delivery of a line or any number of chunks later. The lines are those that a
single engine gives which is fed all chunks and serves as many reads, each under its own prompt, and
more reads would not change them; the session's engine, with the units that still wait, is that
engine, and what was written is its output. The reads that have their lines wait no longer, at most
the last one still waits for its own, and a read that is to follow at once does. -/
theorem delivered_as_served (prompts : Nat → Prompt) (inside : Nat → Bool) (e : Engine)
    (line : Connection Listener) (moves : List Move) :
    let w := play prompts inside e line moves
    let fed := e.feeds (moves.filterMap Move.chunk?)
    let calls := w.state.reader.waiting.length
    let served := fed.serve prompts line.size.columns calls
    (w.state.events = served.2.map .line ∧
      ∀ more, (fed.serve prompts line.size.columns (calls + more)).2.take calls = served.2) ∧
    w.state.reader.engine = served.1.takeOutput.1 ∧
    w.line.written = (line.send served.1.output).written ∧
    w.state.reader.waiting = List.replicate served.2.length none ++
      (if served.2.length < calls then [some (calls - 1)] else []) ∧
    (served.2.length = calls → inside (calls - 1) = false) := by
  intro w fed calls served
  have hmore (more : Nat) := fed.take_serve_add prompts line.size.columns calls more
  cases served_play prompts inside e line moves with
  | armed n agrees all before waiting listens taken =>
    have hcalls : calls = n + 1 := by
      rw [show calls = w.state.reader.waiting.length from rfl, waiting]
      simp
    have hserved : served = fed.serve prompts line.size.columns (n + 1) := by
      rw [show served = fed.serve prompts line.size.columns calls from rfl, hcalls]
    have hlines : served.2.length = n := by rw [hserved]; exact before
    obtain ⟨hengine, hwritten⟩ := agrees.of_taken taken
    refine ⟨⟨hserved ▸ agrees.events, hmore⟩, hserved ▸ hengine, hserved ▸ hwritten, ?_, ?_⟩
    · rw [hlines, hcalls, if_pos (Nat.lt_succ_self n)]
      exact waiting
    · intro hfired
      omega
  | fired n idle listens taken last =>
    have hcalls : calls = n + 1 := idle.length_waiting
    have hserved : served = fed.serve prompts line.size.columns (n + 1) := by
      rw [show served = fed.serve prompts line.size.columns calls from rfl, hcalls]
    have hlines : served.2.length = n + 1 := by rw [hserved]; exact idle.all
    obtain ⟨hengine, hwritten⟩ := idle.agrees.of_taken taken
    refine ⟨⟨hserved ▸ idle.agrees.events, hmore⟩, hserved ▸ hengine, hserved ▸ hwritten, ?_, ?_⟩
    · rw [hlines, hcalls, if_neg (Nat.lt_irrefl _), List.append_nil]
      exact idle.waiting
    · intro _
      rw [hcalls]
      exact last

/-- Four lines: one is found by the listener of its read, one when its read starts, one when its
read is started from within the delivery of that, and one has come in two chunks before its read
started. A fifth read waits. -/
theorem delivered_as_served_four_lines :
    let prompts (k : Nat) : Prompt := { text := [Char.ofNat (48 + k)] }
    let e := engineOf { capacity := 50 } (.ofMode .emacs) .enabled
    let moves : List Move :=
      [.chunk "a\rb\rc\rd".toList, .call, .chunk "e\r".toList, .call, .call, .chunk "f".toList]
    let w := play prompts (· = 1) e {} moves
    w.state.events = ["a", "b", "c", "de"].map (.line ·.toList) ∧
      w.state.reader.waiting = [none, none, none, none, some 4] ∧
      w.state.reader.engine.editor.buffer.line = ['f'] := by
  intro prompts e moves w
  have hcalls : w.state.reader.waiting.length = 5 := by decide +kernel
  obtain ⟨⟨hevents, -⟩, hengine, -, hwaiting, -⟩ :=
    delivered_as_served prompts (· = 1) e {} moves
  refine ⟨?_, ?_, ?_⟩
  · rw [hevents, hcalls]
    decide +kernel
  · rw [hwaiting, hcalls]
    decide +kernel
  · rw [hengine, hcalls]
    decide +kernel

end Session

end LineEditor

import LineEditor.Proofs.Listening
import LineEditor.Shell

/-!
# Handing over from one read to the next

Lines are asked for by one party, and input is brought by another. Both do their work in steps that
the other one may come in between. To start a read is two of them: what waits is replayed, and then
the listener of the read is put in place. To bring a chunk is two of them as well: a listener is
chosen, and then it is told. So a chunk may come to the listener of a read that has its line
already, although the next read has looked for input that waits before, and nobody looks again
until the next chunk comes.

## Main definitions

* `Handover` is a session between the two parties, with the input that was overlooked so far.
* `Handover.Step` are the steps of both parties, and `Handover.step` what they do.
* `Handover.Call` is what the two parties do when nobody comes in between.

## Main results

* `Handover.stage_run` — what all steps keep, whatever their order.
* `Handover.queue_eq_overlooked` — what waits while a read is armed is the input that was
  overlooked, and nothing was if nobody comes in between.
-/

namespace LineEditor

/-- How far the one who asks for lines has come: it may ask for the next line, it is about to let
the read listen, or it waits for a line. -/
inductive Caller
  | ready
  | begun (replayed : Option Text)
  | waiting
  deriving DecidableEq

/-- A session between the one who asks for lines and the one who brings input. The listener for the
next chunk is chosen before it is told, and nobody may listen then. Input is overlooked when it is
fed for a read that has its line already, and the engine does not run afterwards. -/
structure Handover where
  online : OnlineSession Unit
  caller : Caller := .ready
  chosen : Option (Option Listener) := none
  overlooked : List Token := []

namespace Handover

/-- The steps: a line is taken, a read begins and replays what waits, its listener is put in place,
a listener is chosen for the next chunk, and that listener is told the chunk. -/
inductive Step
  | take
  | begin (prompt : Prompt)
  | install
  | choose
  | tell (chunk : Text)

/-- A session that nobody has used yet. -/
def fresh (e : Engine) (line : Connection Listener) : Handover :=
  { online := Session.online e line }

def reader (h : Handover) : LineReader Unit :=
  h.online.state.reader

/-- The input that waits. -/
def queue (h : Handover) : List Token :=
  h.reader.engine.queue

/-- A read waits for its line. -/
def Armed (h : Handover) : Prop :=
  ∃ read, (h.reader.wanted? read).isSome

/-- Neither party is in the middle of a call. -/
def Quiet (h : Handover) : Prop :=
  h.chosen = none ∧ ∀ replayed, h.caller ≠ .begun replayed

/-- What is overlooked once a listener was told a chunk. -/
def overlookedBy (h : Handover) (chunk : Text) : Option Listener → List Token
  | some (.read read) =>
    if (h.reader.wanted? read).isSome then []
    else h.overlooked ++ (h.reader.engine.reader.feed chunk).2
  | _ => h.overlooked

/-- A listener, if there is one, is told a chunk. -/
def told (h : Handover) (chunk : Text) (l : Option Listener) : Handover :=
  { h with
    online := Wired.tell (Session.hear Shell.next) l (.input chunk) h.online
    chosen := none
    overlooked := h.overlookedBy chunk l }

/-- One step of either party. A step that is not its turn does nothing. -/
def step (h : Handover) : Step → Handover
  | .take =>
    match h.caller, h.online.state.events with
    | .waiting, .line _ :: events =>
      { h with
        caller := .ready
        online := { h.online with state := { h.online.state with events } } }
    | _, _ => h
  | .begin prompt =>
    match h.caller with
    | .ready =>
      let (reader, output, replayed) := h.reader.begin prompt h.online.line.size.columns
      { h with
        online := Session.settle reader output h.online
        caller := .begun replayed
        overlooked := [] }
    | _ => h
  | .install =>
    match h.caller with
    | .begun none => { h with online := Session.listen (some ()) h.online, caller := .waiting }
    | .begun (some line) =>
      { h with
        online := Session.report (.line line) (Session.listen none h.online)
        caller := .waiting }
    | _ => h
  | .choose =>
    match h.chosen with
    | none => { h with chosen := some h.online.line.onInput }
    | some _ => h
  | .tell chunk =>
    match h.chosen with
    | none => h
    | some l => h.told chunk l

/-- Several steps, one after the other. -/
def run (h : Handover) (steps : List Step) : Handover :=
  steps.foldl step h

/-- What the parties do from beginning to end: take a line, start a read, bring a chunk. -/
inductive Call
  | take
  | read (prompt : Prompt)
  | chunk (t : Text)

/-- The steps of a call when nobody comes in between. -/
def Call.steps : Call → List Step
  | .take => [.take]
  | .read prompt => [.begin prompt, .install]
  | .chunk t => [.choose, .tell t]

/-! ### What all steps keep -/

/-- How far a session has come. At most one read waits for its line, and then no line waits to be
taken; what waits in the queue then is what was overlooked. -/
inductive Stage (h : Handover) : Prop
  /-- The next line may be asked for. -/
  | ready (n : Nat) (caller : h.caller = .ready) (events : h.online.state.events = [])
      (waiting : h.reader.waiting = List.replicate n none)
  /-- A read has looked for input that waits, and its listener is not in place. -/
  | begun (n : Nat) (replayed : Option Text) (caller : h.caller = .begun replayed)
      (events : h.online.state.events = []) (waiting : h.reader.waiting = List.replicate n none)
      (queue : replayed = none → h.queue = h.overlooked)
  /-- A read waits for its line. -/
  | armed (n : Nat) (caller : h.caller = .waiting) (events : h.online.state.events = [])
      (waiting : h.reader.waiting = List.replicate n none ++ [some ()])
      (queue : h.queue = h.overlooked)
  /-- The line of a read waits to be taken. -/
  | delivered (n : Nat) (line : Text) (caller : h.caller = .waiting)
      (events : h.online.state.events = [.line line])
      (waiting : h.reader.waiting = List.replicate n none)

variable {h : Handover}

theorem stage_fresh (e : Engine) (line : Connection Listener) : (fresh e line).Stage :=
  .ready 0 rfl rfl rfl

theorem stage_take (hstage : h.Stage) : (h.step .take).Stage := by
  cases hstage with
  | ready n caller events waiting =>
    rw [step, caller]
    exact .ready n caller events waiting
  | begun n replayed caller events waiting queue =>
    rw [step, caller]
    exact .begun n replayed caller events waiting queue
  | armed n caller events waiting queue =>
    rw [step, caller, events]
    exact .armed n caller events waiting queue
  | delivered n line caller events waiting =>
    rw [step, caller, events]
    exact .ready n rfl rfl waiting

theorem stage_begin (prompt : Prompt) (hstage : h.Stage) : (h.step (.begin prompt)).Stage := by
  cases hstage with
  | ready n caller events waiting =>
    rw [step, caller]
    refine .begun n _ rfl events waiting ?_
    intro hnone
    exact congrArg Engine.queue (Engine.run_eq_none (Prod.ext rfl hnone)).2
  | begun n replayed caller events waiting queue =>
    rw [step, caller]
    exact .begun n replayed caller events waiting queue
  | armed n caller events waiting queue =>
    rw [step, caller]
    exact .armed n caller events waiting queue
  | delivered n line caller events waiting =>
    rw [step, caller]
    exact .delivered n line caller events waiting

theorem stage_install (hstage : h.Stage) : (h.step .install).Stage := by
  cases hstage with
  | ready n caller events waiting =>
    rw [step, caller]
    exact .ready n caller events waiting
  | begun n replayed caller events waiting queue =>
    rw [step, caller]
    cases replayed with
    | none => exact .armed n rfl events (congrArg (· ++ [some ()]) waiting) (queue rfl)
    | some line =>
      refine .delivered (n + 1) line rfl (congrArg (· ++ [SessionEvent.line line]) events) ?_
      exact LineReader.concat_none_of_waiting waiting
  | armed n caller events waiting queue =>
    rw [step, caller]
    exact .armed n caller events waiting queue
  | delivered n line caller events waiting =>
    rw [step, caller]
    exact .delivered n line caller events waiting

theorem Stage.chosen (hstage : h.Stage) (l : Option (Option Listener)) :
    { h with chosen := l }.Stage := by
  cases hstage with
  | ready n caller events waiting => exact .ready n caller events waiting
  | begun n replayed caller events waiting queue =>
    exact .begun n replayed caller events waiting queue
  | armed n caller events waiting queue => exact .armed n caller events waiting queue
  | delivered n line caller events waiting => exact .delivered n line caller events waiting

theorem stage_choose (hstage : h.Stage) : (h.step .choose).Stage := by
  rw [step]
  cases h.chosen with
  | none => exact hstage.chosen _
  | some l => exact hstage

theorem overlookedBy_of_wanted_eq_none {read : Nat} (hwanted : h.reader.wanted? read = none)
    (chunk : Text) :
    h.overlookedBy chunk (some (.read read)) =
      h.overlooked ++ (h.reader.engine.reader.feed chunk).2 := by
  rw [overlookedBy, hwanted]
  rfl

theorem overlookedBy_of_wanted_eq_some {read : Nat} (hwanted : h.reader.wanted? read = some ())
    (chunk : Text) : h.overlookedBy chunk (some (.read read)) = [] := by
  rw [overlookedBy, hwanted]
  rfl

/-- A chunk that is told to a read which has its line is kept and overlooked. -/
theorem Stage.told_of_wanted_eq_none (hstage : h.Stage) {read : Nat}
    (hwanted : h.reader.wanted? read = none) (chunk : Text) :
    (h.told chunk (some (.read read))).Stage := by
  rw [told, Wired.tell, Session.hear_of_wanted_eq_none hwanted,
    overlookedBy_of_wanted_eq_none hwanted]
  have hqueue (queue : h.queue = h.overlooked) :
      h.queue ++ (h.reader.engine.reader.feed chunk).2 =
        h.overlooked ++ (h.reader.engine.reader.feed chunk).2 := congrArg (· ++ _) queue
  cases hstage with
  | ready n caller events waiting => exact .ready n caller events waiting
  | begun n replayed caller events waiting queue =>
    exact .begun n replayed caller events waiting fun hnone => hqueue (queue hnone)
  | armed n caller events waiting queue => exact .armed n caller events waiting (hqueue queue)
  | delivered n line caller events waiting => exact .delivered n line caller events waiting

/-- A chunk that is told to the read that waits is taken whole, or gives the line of that read. -/
theorem Stage.told_of_wanted_eq_some (hstage : h.Stage) {read : Nat}
    (hwanted : h.reader.wanted? read = some ()) (chunk : Text) :
    (h.told chunk (some (.read read))).Stage := by
  cases hstage with
  | ready n caller events waiting =>
    cases hwanted.symm.trans (LineReader.wanted_eq_none waiting read)
  | begun n replayed caller events waiting queue =>
    cases hwanted.symm.trans (LineReader.wanted_eq_none waiting read)
  | delivered n line caller events waiting =>
    cases hwanted.symm.trans (LineReader.wanted_eq_none waiting read)
  | armed n caller events waiting queue =>
    obtain ⟨rfl, -⟩ := (LineReader.wanted_eq_some_iff waiting).mp hwanted
    rw [told, Wired.tell, overlookedBy_of_wanted_eq_some hwanted]
    rcases hrun : (h.reader.engine.feed chunk).run with ⟨e, _ | line⟩
    · rw [Session.hear_of_run_eq_none hwanted hrun]
      exact .armed read caller events waiting (congrArg Engine.queue (Engine.run_eq_none hrun).2)
    · rw [Session.hear_of_run_eq_some hwanted hrun]
      exact .delivered (read + 1) line caller (congrArg (· ++ [SessionEvent.line line]) events)
        (LineReader.set_none_of_waiting waiting)

theorem stage_tell (chunk : Text) (hstage : h.Stage) : (h.step (.tell chunk)).Stage := by
  rw [step]
  match h.chosen with
  | none => exact hstage
  | some none => exact hstage.chosen none
  | some (some .size) => exact hstage.chosen none
  | some (some .interrupt) => exact hstage.chosen none
  | some (some .close) => exact hstage.chosen none
  | some (some (.read read)) =>
    cases hwanted : h.reader.wanted? read with
    | none => exact hstage.told_of_wanted_eq_none hwanted chunk
    | some k => exact hstage.told_of_wanted_eq_some hwanted chunk

/-- Whatever the order of the steps. -/
theorem stage_run (hstage : h.Stage) (steps : List Step) : (h.run steps).Stage := by
  induction steps generalizing h with
  | nil => exact hstage
  | cons s rest ih =>
    cases s with
    | take => exact ih (stage_take hstage)
    | begin prompt => exact ih (stage_begin prompt hstage)
    | install => exact ih (stage_install hstage)
    | choose => exact ih (stage_choose hstage)
    | tell chunk => exact ih (stage_tell chunk hstage)

theorem Stage.queue_of_armed (hstage : h.Stage) (harmed : h.Armed) :
    h.caller = .waiting ∧ h.online.state.events = [] ∧ h.queue = h.overlooked := by
  obtain ⟨read, hwanted⟩ := harmed
  obtain ⟨k, hwanted⟩ := Option.isSome_iff_exists.mp hwanted
  cases hstage with
  | armed n caller events waiting queue => exact ⟨caller, events, queue⟩
  | ready n _ _ waiting => cases hwanted.symm.trans (LineReader.wanted_eq_none waiting read)
  | begun n _ _ _ waiting => cases hwanted.symm.trans (LineReader.wanted_eq_none waiting read)
  | delivered n _ _ _ waiting => cases hwanted.symm.trans (LineReader.wanted_eq_none waiting read)

/-! ### Calls that nobody comes in between -/

/-- To start a read is to begin it and to let it listen. -/
theorem online_run_read (hcaller : h.caller = .ready) (prompt : Prompt) :
    (h.run (Call.read prompt).steps).online = Session.start Shell.next prompt () h.online := by
  rcases hrun : (h.reader.engine.beginRead prompt h.online.line.size.columns).run with ⟨e, _ | line⟩
  · rw [Session.start_of_run_eq_none hrun, Call.steps, run, List.foldl_cons, step, hcaller,
      LineReader.begin_of_run hrun]
    rfl
  · rw [Session.start_of_run_eq_some hrun, Call.steps, run, List.foldl_cons, step, hcaller,
      LineReader.begin_of_run hrun]
    rfl

/-- To bring a chunk is to tell whoever listens. -/
theorem online_run_chunk (hchosen : h.chosen = none) (t : Text) :
    (h.run (Call.chunk t).steps).online = (Session.type Shell.next t h.online).1 := by
  rw [Call.steps, run, List.foldl_cons, step, hchosen]
  rfl

/-- Nobody is in the middle of a call. The read that waits for its line, if any, is the one that
listens, and nothing was overlooked since it began. -/
structure Settled (h : Handover) : Prop where
  quiet : h.Quiet
  listens : ∀ read, h.reader.wanted? read = some () →
    h.overlooked = [] ∧ h.online.line.onInput = some (.read read)

theorem settled_take (hstage : h.Stage) (hsettled : h.Settled) : (h.step .take).Settled := by
  cases hstage with
  | ready n caller events waiting =>
    rw [step, caller]
    exact hsettled
  | begun n replayed caller events waiting queue => exact absurd caller (hsettled.quiet.2 replayed)
  | armed n caller events waiting queue =>
    rw [step, caller, events]
    exact hsettled
  | delivered n line caller events waiting =>
    rw [step, caller, events]
    exact ⟨⟨hsettled.quiet.1, fun _ hbegun => Caller.noConfusion hbegun⟩, hsettled.listens⟩

theorem settled_read (hstage : h.Stage) (hsettled : h.Settled) (prompt : Prompt) :
    (h.run (Call.read prompt).steps).Settled := by
  have hidle (hcaller : h.caller = .waiting) : h.run (Call.read prompt).steps = h := by
    have hbegin : h.step (.begin prompt) = h := by rw [step, hcaller]
    have hinstall : h.step .install = h := by rw [step, hcaller]
    rw [Call.steps, run, List.foldl_cons, List.foldl_cons, hbegin, hinstall, List.foldl_nil]
  cases hstage with
  | begun n replayed caller events waiting queue => exact absurd caller (hsettled.quiet.2 replayed)
  | armed n caller events waiting queue => exact (hidle caller).symm ▸ hsettled
  | delivered n line caller events waiting => exact (hidle caller).symm ▸ hsettled
  | ready n caller events waiting =>
    rw [Call.steps, run, List.foldl_cons, step, caller]
    rcases hrun : (h.reader.engine.beginRead prompt h.online.line.size.columns).run with
      ⟨e, _ | line⟩
    · rw [LineReader.begin_of_run hrun]
      refine ⟨⟨hsettled.quiet.1, fun _ hbegun => Caller.noConfusion hbegun⟩, ?_⟩
      intro read hread
      have hwaiting : h.reader.waiting ++ [some ()] = List.replicate n none ++ [some ()] :=
        congrArg (· ++ [some ()]) waiting
      obtain ⟨rfl, -⟩ := (LineReader.wanted_eq_some_iff hwaiting).mp hread
      refine ⟨rfl, ?_⟩
      exact congrArg (fun number => some (Listener.read number))
        (LineReader.length_of_waiting waiting)
    · rw [LineReader.begin_of_run hrun]
      refine ⟨⟨hsettled.quiet.1, fun _ hbegun => Caller.noConfusion hbegun⟩, ?_⟩
      intro read hread
      have hwaiting := LineReader.concat_none_of_waiting waiting
      cases hread.symm.trans (LineReader.wanted_eq_none hwaiting read)

theorem settled_told (hsettled : h.Settled) (t : Text) {l : Option Listener}
    (hl : h.online.line.onInput = l) : (h.told t l).Settled := by
  refine ⟨⟨rfl, hsettled.quiet.2⟩, ?_⟩
  intro read hread
  match l with
  | none => exact hsettled.listens read hread
  | some .size => exact hsettled.listens read hread
  | some .interrupt => exact hsettled.listens read hread
  | some .close => exact hsettled.listens read hread
  | some (.read number) =>
    -- the read that waits is the one that listens
    have heard (hwaits : h.reader.wanted? read = some ()) : read = number := by
      have hlistens := (hsettled.listens read hwaits).2.symm.trans hl
      exact Listener.read.inj (Option.some.inj hlistens)
    rw [told, Wired.tell] at hread ⊢
    cases hwanted : h.reader.wanted? number with
    | none =>
      rw [Session.hear_of_wanted_eq_none hwanted] at hread
      obtain rfl := heard hread
      cases hread.symm.trans hwanted
    | some k =>
      rw [overlookedBy_of_wanted_eq_some hwanted]
      refine ⟨rfl, ?_⟩
      rcases hrun : (h.reader.engine.feed t).run with ⟨e, _ | line⟩
      · rw [Session.hear_of_run_eq_none hwanted hrun] at hread ⊢
        obtain rfl := heard hread
        exact (Connection.onInput_send _ _).trans hl
      · rw [Session.hear_of_run_eq_some hwanted hrun] at hread
        have hwaits := LineReader.wanted_of_set hread
        obtain rfl := heard hwaits.2
        exact absurd rfl hwaits.1

theorem settled_call (hstage : h.Stage) (hsettled : h.Settled) (call : Call) :
    (h.run call.steps).Settled := by
  cases call with
  | take => exact settled_take hstage hsettled
  | read prompt => exact settled_read hstage hsettled prompt
  | chunk t =>
    rw [Call.steps, run, List.foldl_cons, step, hsettled.quiet.1]
    exact settled_told hsettled t rfl

theorem settled_calls (hstage : h.Stage) (hsettled : h.Settled) (calls : List Call) :
    (h.run (calls.flatMap Call.steps)).Settled := by
  induction calls generalizing h with
  | nil => exact hsettled
  | cons call rest ih =>
    rw [List.flatMap_cons, run, List.foldl_append]
    exact ih (stage_run hstage call.steps) (settled_call hstage hsettled call)

/-! ### What waits while a read is armed -/

/-- Whatever the order of the steps, what waits while a read is armed is the input that was
overlooked: the chunks that came to the listener of an earlier read after the armed one began, with
no run of the engine since. As long as nobody comes in between of the steps of a call, nothing is
overlooked. -/
theorem queue_eq_overlooked (e : Engine) (line : Connection Listener) :
    (∀ steps, ((fresh e line).run steps).Armed →
      ((fresh e line).run steps).queue = ((fresh e line).run steps).overlooked) ∧
    ∀ calls : List Call, ((fresh e line).run (calls.flatMap Call.steps)).Armed →
      ((fresh e line).run (calls.flatMap Call.steps)).queue = [] := by
  have harmed (steps : List Step) (h : ((fresh e line).run steps).Armed) :=
    ((stage_run (stage_fresh e line) steps).queue_of_armed h).2.2
  refine ⟨harmed, ?_⟩
  intro calls h
  rw [harmed _ h]
  have hsettled : (fresh e line).Settled :=
    ⟨⟨rfl, fun _ hbegun => Caller.noConfusion hbegun⟩, fun read hread => by cases hread⟩
  obtain ⟨read, hread⟩ := h
  obtain ⟨k, hread⟩ := Option.isSome_iff_exists.mp hread
  exact ((settled_calls (stage_fresh e line) hsettled calls).listens read hread).1

/-- A line and a chunk with the next read in between of them, and the same chunk for the listener of
the read before. -/
theorem queue_eq_overlooked_late_chunk :
    let h := fresh (Session.engineOf { capacity := 50 } (.ofMode .emacs) .enabled) {}
    let calls : List Call := [.read {}, .chunk ['a', '\r'], .take, .read {}, .chunk ['x']]
    let steps : List Step :=
      [.begin {}, .install, .choose, .tell ['a', '\r'], .take, .choose, .begin {}, .install,
        .tell ['x']]
    (h.run (calls.flatMap Call.steps)).Armed ∧ (h.run (calls.flatMap Call.steps)).queue = [] ∧
      (h.run steps).Armed ∧ (h.run steps).overlooked = typed "x" ∧
        (h.run steps).queue = typed "x" := by
  intro h calls steps
  obtain ⟨hsteps, hcalls⟩ :=
    queue_eq_overlooked (Session.engineOf { capacity := 50 } (.ofMode .emacs) .enabled) {}
  have harmed : (h.run steps).Armed := ⟨1, by decide +kernel⟩
  have harmedCalls : (h.run (calls.flatMap Call.steps)).Armed := ⟨1, by decide +kernel⟩
  have hoverlooked : (h.run steps).overlooked = typed "x" := by decide +kernel
  exact ⟨harmedCalls, hcalls calls harmedCalls, harmed, hoverlooked,
    (hsteps steps harmed).trans hoverlooked⟩

/-- A chunk that comes while a read starts, after that read has looked for input that waits, is left
waiting: the read is armed, nobody is at work, and the engine does not run before the next chunk. -/
theorem queue_ne_nil_while_armed :
    let h := fresh (Session.engineOf { capacity := 50 } (.ofMode .emacs) .enabled) {}
    let steps : List Step :=
      [.begin {}, .install, .choose, .tell ['a', '\r'], .take, .begin {}, .choose, .tell ['x'],
        .install]
    (h.run steps).Quiet ∧ (h.run steps).Armed ∧ (h.run steps).queue ≠ [] := by
  intro h steps
  have hcaller : (h.run steps).caller = .waiting := by decide +kernel
  refine ⟨⟨by decide +kernel, ?_⟩, ⟨1, by decide +kernel⟩, by decide +kernel⟩
  intro replayed hbegun
  cases hcaller.symm.trans hbegun

end Handover

end LineEditor

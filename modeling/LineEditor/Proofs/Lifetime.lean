import LineEditor.Connection.Reading
import LineEditor.Proofs.Chunks
import LineEditor.Proofs.Decoding

/-!
# The life of a connection

A connection is read by a loop, and while the loop goes on there are others who change who listens,
or close the connection: those who own it, and the listeners themselves when they are told
something. Here all of them take turns, one read or one call at a time, in any order.

What a listener does may depend on everything that it or another one was told before. It is given
by a script, so that nothing is assumed of it but that it acts through the connection.

## Main definitions

* `Act` is what may be done to a connection, and `Script` says what the listeners do.
* `Note` is what is noted of a connection: who was told what, and the calls to close.
* `Course` is a connection in the course of its life, with its loop and the reads that were taken.
* `Course.owed` is what the listeners have to be told of the reads, and `Course.firstClosing` the
  first closing of the connection.

## Main results

* `Wired.hearWithin_add_two` — how deep tellings are inside of one another.
* `Course.runLoop_eq_rounds` — the loop as a whole is its rounds with nothing in between.
* `Course.sound_run` — what one step after the other keeps.
* `Course.told_as_read` — what the listeners are told, where the loop stops, and who hears of the
  end.
-/

namespace LineEditor

/-- What may be done to a connection: to say who listens, and to close it. -/
inductive Act (η : Type)
  | listenInput (l : Option η)
  | listenInterrupt (l : Option η)
  | listenResize (l : Option η)
  | listenClose (l : Option η)
  | close (reason : CloseReason)

/-- What is noted of a connection: a listener was told something, or the connection was to be
closed, whoever listened for that then. -/
inductive Note (η : Type)
  | told (l : η) (event : ConnectionEvent)
  | closing (reason : CloseReason) (l : Option η)

/-- A connection with what is noted of it, the oldest note first. -/
abbrev Noted (η : Type) := Wired (List (Note η)) η

/-- What listeners do when they are told something. All that was noted before is known to them, and
the last note says who is told what. -/
abbrev Script (η : Type) := List (Note η) → List (Act η)

namespace Note

variable {η : Type}

/-- Input or an interrupt, and who was told of it. -/
def handed? : Note η → Option (η × ConnectionEvent)
  | told l (.input t) => some (l, .input t)
  | told l .interrupt => some (l, .interrupt)
  | _ => none

/-- The end of the connection, and who was told of it. -/
def ended? : Note η → Option (η × CloseReason)
  | told l (.closed reason) => some (l, reason)
  | _ => none

/-- A call to close, and who listened for it then. -/
def closing? : Note η → Option (CloseReason × Option η)
  | closing reason l => some (reason, l)
  | _ => none

end Note

namespace Wired

variable {η : Type}

/-- Adds a note. -/
def note (n : Note η) (w : Noted η) : Noted η :=
  { w with state := w.state ++ [n] }

/-- Acts on a connection. -/
def perform (hear : Hearing (List (Note η)) η) (w : Noted η) :
    Act η → Noted η
  | .listenInput l => w.onLine ({ · with onInput := l })
  | .listenInterrupt l => w.onLine ({ · with onInterrupt := l })
  | .listenResize l => w.onLine ({ · with onResize := l })
  | .listenClose l => w.onLine ({ · with onClose := l })
  | .close reason => (w.note (.closing reason w.line.onClose)).close hear reason

end Wired

namespace Script

variable {η : Type}

/-- What the listeners do, where one telling leads to at most `depth` more inside it. -/
def hearWithin (script : Script η) : Nat → Hearing (List (Note η)) η
  | 0 => fun l event w => w.note (.told l event)
  | depth + 1 => fun l event w =>
    let told := w.note (.told l event)
    (script told.state).foldl (Wired.perform (hearWithin script depth)) told

/-- What the listeners do. To close the connection is the one act that tells a listener something,
and it does so only once, so that no telling is inside of more than one other. -/
def hear (script : Script η) : Hearing (List (Note η)) η :=
  script.hearWithin 2

end Script

/-- A read that ends the stream, or has failed, closes the connection. -/
def ReadResult.closing? : ReadResult → Option CloseReason
  | .octets [] => some .endOfStream
  | .octets _ => none
  | .interrupted => none
  | .failed report => some (.failed report)

/-- The octets of a read. -/
def ReadResult.octets? : ReadResult → Option Octets
  | .octets o => some o
  | _ => none

/-- The text of an input. -/
def ConnectionEvent.text? : ConnectionEvent → Option Text
  | .input t => some t
  | _ => none

/-- A read that the loop has taken, and who listened then. -/
structure Taken (η : Type) where
  read : ReadResult
  onInput : Option η
  onInterrupt : Option η
  onClose : Option η

namespace Taken

variable {η : Type}

/-- A read that is taken now. -/
def now (line : Connection η) (read : ReadResult) : Taken η :=
  ⟨read, line.onInput, line.onInterrupt, line.onClose⟩

def octets? (k : Taken η) : Option Octets :=
  k.read.octets?

/-- A read that closed the connection, with who listened for that then. -/
def closing? (k : Taken η) : Option (CloseReason × Option η) :=
  k.read.closing?.map (·, k.onClose)

/-- A text is an interrupt that comes alone, and somebody listens for interrupts. -/
def diverts (k : Taken η) (t : Text) : Bool :=
  t = [Wired.interruptChar] && k.onInterrupt.isSome

/-- Who is to be told of a decoded text, and what. Of no text nobody is told. -/
def owes (k : Taken η) (t : Text) : Option (η × ConnectionEvent) :=
  if t.isEmpty then none
  else if k.diverts t then k.onInterrupt.map (·, .interrupt)
  else k.onInput.map (·, .input t)

end Taken

/-- Decodes the octets of several reads, one after the other. Each text goes with the read that it
came from. -/
def Decoder.decodeReads {η : Type} : Decoder → List (Taken η) → Decoder × List (Text × Taken η)
  | d, [] => (d, [])
  | d, k :: rest =>
    match k.octets? with
    | none => decodeReads d rest
    | some o =>
      let (d, t) := d.decode o
      let (d, texts) := decodeReads d rest
      (d, (t, k) :: texts)

/-- What the listeners have to be told of decoded texts. -/
def Decoder.owed {η : Type} (texts : List (Text × Taken η)) : List (η × ConnectionEvent) :=
  texts.filterMap fun (t, k) => k.owes t

/-- A connection in the course of its life. While the loop goes on there is its decoder, with the
reads that are still to come. -/
structure Course (η : Type) where
  wired : Noted η
  loop : Option (Decoder × List ReadResult) := none
  taken : List (Taken η) := []

/-- What happens to a connection: somebody acts on it, its loop is started, or the loop goes
round. -/
inductive Course.Step (η : Type)
  | act (a : Act η)
  | start
  | round

namespace Course

variable {η : Type}

/-- A connection that has not been read, and who listens to it. -/
def fresh (line : Connection η) (reads : List ReadResult) : Course η :=
  { wired := { state := [], line := { line with reads := some reads, isClosed := false } } }

/-- Starts the loop, unless that was done before. -/
def start (c : Course η) : Course η :=
  match c.wired.line.reads with
  | none => c
  | some reads =>
    { c with
      wired := c.wired.onLine ({ · with reads := none })
      loop := some ({ charset := c.wired.line.charset }, reads) }

/-- Takes one read, which goes to the decoder and to those who listen. -/
def takeRead (script : Script η) (c : Course η) (d : Decoder) (r : ReadResult)
    (rest : List ReadResult) : Course η :=
  let (d, wired) := c.wired.takeRead script.hear d r
  { wired, loop := some (d, rest), taken := c.taken ++ [.now c.wired.line r] }

/-- One round of the loop. It stops at a connection that is closed; after the last read comes the
end of the stream. -/
def round (script : Script η) (c : Course η) : Course η :=
  match c.loop with
  | none => c
  | some (d, reads) =>
    if c.wired.line.isClosed then { c with loop := none }
    else
      match reads with
      | [] => c.takeRead script d (.octets []) []
      | r :: rest => c.takeRead script d r rest

/-- One step in the life of a connection. -/
def step (script : Script η) (c : Course η) : Step η → Course η
  | .act a => { c with wired := c.wired.perform script.hear a }
  | .start => c.start
  | .round => c.round script

/-- Several steps, one after the other. -/
def run (script : Script η) (c : Course η) (steps : List (Step η)) : Course η :=
  steps.foldl (step script) c

/-- Who was told of input and interrupts, and what. -/
def handed (c : Course η) : List (η × ConnectionEvent) :=
  c.wired.state.filterMap Note.handed?

/-- The input that was handed over, and to whom. -/
def inputs (c : Course η) : List (η × Text) :=
  c.handed.filterMap fun (l, event) => event.text?.map (l, ·)

/-- What was read, decoded. -/
def decoded (c : Course η) : Decoder × List (Text × Taken η) :=
  Decoder.decodeReads { charset := c.wired.line.charset } c.taken

/-- What the listeners have to be told of the reads. -/
def owed (c : Course η) : List (η × ConnectionEvent) :=
  Decoder.owed c.decoded.2

/-- The first closing, and who listened for it then. The loop takes no read from a connection that
is closed, so that a read which closes it comes before every call. -/
def firstClosing (c : Course η) : Option (CloseReason × Option η) :=
  (c.taken.findSome? Taken.closing?).or (c.wired.state.findSome? Note.closing?)

end Course

/-! ### What the listeners do among themselves -/

namespace Wired

variable {η : Type}

@[simp]
theorem line_note (n : Note η) (w : Noted η) : (w.note n).line = w.line := rfl

@[simp]
theorem state_note (n : Note η) (w : Noted η) :
    (w.note n).state = w.state ++ [n] := rfl

/-- The connection is closed if there was a first closing, and of that closing, and no other, the
one who listened for it then was told. -/
structure ClosedBy (first : Option (CloseReason × Option η)) (w : Noted η) :
    Prop where
  isClosed : w.line.isClosed = first.isSome
  ended : w.state.filterMap Note.ended? =
    (first.bind fun closing => closing.2.map (·, closing.1)).toList

/-- An open connection was not closed. -/
theorem ClosedBy.eq_none {first : Option (CloseReason × Option η)} {w : Noted η}
    (h : w.ClosedBy first) (hopen : w.line.isClosed = false) : first = none := by
  rw [← Option.isNone_iff_eq_none, ← Option.not_isSome, ← h.isClosed, hopen]
  rfl

/-- Only the note of who was told of the end counts for that. -/
theorem ClosedBy.note {first : Option (CloseReason × Option η)} {w : Noted η}
    (h : w.ClosedBy first) {n : Note η} (hn : n.ended? = none) : (w.note n).ClosedBy first := by
  refine ⟨h.isClosed, ?_⟩
  rw [state_note, List.filterMap_append, List.filterMap_cons_none hn, List.filterMap_nil,
    List.append_nil]
  exact h.ended

/-- What is done to a connection when somebody acts on it, or is told something. The notes that come
out of it tell of `handed` and nothing else, and a call to close is the first closing unless there
was one before. -/
structure Acted (w : Noted η) (handed : List (η × ConnectionEvent)) (w' : Noted η) : Prop where
  line : w'.line.reads = w.line.reads ∧ w'.line.charset = w.line.charset
  noted : ∃ more, w'.state = w.state ++ more ∧ more.filterMap Note.handed? = handed ∧
    ∀ first, w.ClosedBy first → w'.ClosedBy (first.or (more.findSome? Note.closing?))

namespace Acted

variable {w w' w'' : Noted η} {handed handed' : List (η × ConnectionEvent)}

theorem refl (w : Noted η) : w.Acted [] w := by
  refine ⟨⟨rfl, rfl⟩, [], (List.append_nil _).symm, rfl, ?_⟩
  intro first h
  rwa [List.findSome?_nil, Option.or_none]

theorem trans (h : w.Acted handed w') (h' : w'.Acted handed' w'') :
    w.Acted (handed ++ handed') w'' := by
  obtain ⟨more, hstate, hhanded, hclosed⟩ := h.noted
  obtain ⟨more', hstate', hhanded', hclosed'⟩ := h'.noted
  refine ⟨⟨h'.line.1.trans h.line.1, h'.line.2.trans h.line.2⟩, more ++ more', ?_, ?_, ?_⟩
  · rw [hstate', hstate, List.append_assoc]
  · rw [List.filterMap_append, hhanded, hhanded']
  · intro first hfirst
    rw [List.findSome?_append, ← Option.or_assoc]
    exact hclosed' _ (hclosed first hfirst)

/-- Saying who listens. -/
theorem onLine (f : Connection η → Connection η) (hreads : (f w.line).reads = w.line.reads)
    (hcharset : (f w.line).charset = w.line.charset)
    (hclosed : (f w.line).isClosed = w.line.isClosed) : w.Acted [] (w.onLine f) := by
  refine ⟨⟨hreads, hcharset⟩, [], (List.append_nil _).symm, rfl, ?_⟩
  intro first h
  rw [List.findSome?_nil, Option.or_none]
  exact ⟨hclosed.trans h.isClosed, h.ended⟩

/-- Telling of input or an interrupt is noted. -/
theorem note {n : Note η} {what : η × ConnectionEvent} (h : n.handed? = some what) :
    w.Acted [what] (w.note n) := by
  refine ⟨⟨rfl, rfl⟩, [n], rfl, ?_, ?_⟩
  · rw [List.filterMap_cons_some h, List.filterMap_nil]
  · intro first hfirst
    obtain ⟨hended, hclosing⟩ : n.ended? = none ∧ n.closing? = none := by
      obtain ⟨l, t | _ | size | reason⟩ | ⟨reason, l⟩ := n
      all_goals first | exact ⟨rfl, rfl⟩ | cases h
    rw [List.findSome?_singleton, hclosing, Option.or_none]
    exact hfirst.note hended

end Acted

/-- The listeners act through the connection when they are told something. -/
def ActsThrough (hear : Hearing (List (Note η)) η) : Prop :=
  ∀ (l : η) (event : ConnectionEvent) (w : Noted η),
    Acted (note (.told l event) w) [] (hear l event w)

section Hearing

variable {hear : Hearing (List (Note η)) η} {w : Noted η}

/-- Closing a connection tells nobody of input, and to close an open one is its first closing. -/
theorem noted_close (hhear : ActsThrough hear) (reason : CloseReason) :
    ((w.close hear reason).line.reads = w.line.reads ∧
      (w.close hear reason).line.charset = w.line.charset) ∧
    ∃ more, (w.close hear reason).state = w.state ++ more ∧ more.filterMap Note.handed? = [] ∧
      (w.ClosedBy none → (w.close hear reason).ClosedBy (some (reason, w.line.onClose))) := by
  rw [close]
  split
  · next hclosed =>
    refine ⟨⟨rfl, rfl⟩, [], (List.append_nil _).symm, rfl, ?_⟩
    intro h
    exact absurd (hclosed.symm.trans h.isClosed) Bool.noConfusion
  · cases hlistener : w.line.onClose with
    | none =>
      refine ⟨⟨rfl, rfl⟩, [], (List.append_nil _).symm, rfl, ?_⟩
      intro h
      exact ⟨rfl, h.ended⟩
    | some l =>
      -- the one who listens is told, and may then do what it likes
      obtain ⟨hline, more, hstate, hhanded, hclosed⟩ :=
        hhear l (.closed reason) (w.onLine fun c => { c with isClosed := true, onClose := none })
      refine ⟨hline, .told l (.closed reason) :: more, ?_, hhanded, ?_⟩
      · rw [tell, hstate, state_note, List.append_assoc]
        rfl
      · intro h
        refine hclosed (some (reason, some l)) ⟨rfl, ?_⟩
        rw [state_note, List.filterMap_append]
        exact congrArg (· ++ [(l, reason)]) h.ended

theorem acted_perform (hhear : ActsThrough hear) (a : Act η) : w.Acted [] (w.perform hear a) := by
  cases a with
  | listenInput l => exact .onLine ({ · with onInput := l }) rfl rfl rfl
  | listenInterrupt l => exact .onLine ({ · with onInterrupt := l }) rfl rfl rfl
  | listenResize l => exact .onLine ({ · with onResize := l }) rfl rfl rfl
  | listenClose l => exact .onLine ({ · with onClose := l }) rfl rfl rfl
  | close reason =>
    obtain ⟨hline, more, hstate, hhanded, hclosed⟩ :=
      noted_close (w := w.note (.closing reason w.line.onClose)) hhear reason
    refine ⟨hline, .closing reason w.line.onClose :: more, ?_, hhanded, ?_⟩
    · rw [perform, hstate, state_note, List.append_assoc]
      rfl
    · intro first h
      cases first with
      | none => exact hclosed (h.note rfl)
      | some closing =>
        -- the connection is closed already
        have hsame : (w.note (.closing reason w.line.onClose)).close hear reason =
            w.note (.closing reason w.line.onClose) := close_of_isClosed _ _ _ h.isClosed
        rw [perform, hsame, Option.some_or]
        exact h.note rfl

/-- Several acts, one after the other. -/
theorem acted_foldl (hhear : ActsThrough hear) (acts : List (Act η)) :
    w.Acted [] (acts.foldl (perform hear) w) := by
  induction acts generalizing w with
  | nil => exact .refl w
  | cons a rest ih => exact (acted_perform hhear a).trans ih

/-- Of input or an interrupt the one who listens is told, if there is one. -/
theorem acted_tell (hhear : ActsThrough hear) (listener : Option η) {event : ConnectionEvent}
    (hevent : ∀ l : η, (Note.told l event).handed? = some (l, event)) :
    w.Acted (listener.map (·, event)).toList (tell hear listener event w) := by
  cases listener with
  | none => exact .refl w
  | some l => exact (Acted.note (hevent l)).trans (hhear l event w)

/-- Decoded text is handed to those who listen now. -/
theorem acted_deliver (hhear : ActsThrough hear) (r : ReadResult) (t : Text) :
    w.Acted ((Taken.now w.line r).owes t).toList (if t.isEmpty then w else w.deliver hear t) := by
  rw [Taken.owes]
  split
  · exact .refl w
  · rw [deliver]
    by_cases h : t = [interruptChar] ∧ w.line.onInterrupt.isSome = true
    · have hdiverts : (Taken.now w.line r).diverts t = true := by simp [Taken.diverts, Taken.now, h]
      rw [if_pos h, if_pos hdiverts]
      exact acted_tell hhear _ fun _ => rfl
    · have hdiverts : ¬(Taken.now w.line r).diverts t = true := by
        simpa [Taken.diverts, Taken.now] using h
      rw [if_neg h, if_neg hdiverts]
      exact acted_tell hhear _ fun _ => rfl

end Hearing

/-- What a script says is done through the connection. -/
theorem actsThrough_hearWithin (script : Script η) (depth : Nat) :
    ActsThrough (script.hearWithin depth) := by
  induction depth with
  | zero => exact fun l event w => .refl _
  | succ depth ih => exact fun l event w => acted_foldl ih _

theorem actsThrough_hear (script : Script η) : ActsThrough script.hear :=
  actsThrough_hearWithin script 2

section Depth

variable {hear hear' : Hearing (List (Note η)) η}

/-- Listeners are told by an act only of the end, and only when the connection is closed by then. -/
theorem perform_eq (h : ∀ l event w, w.line.isClosed = true → hear l event w = hear' l event w) :
    perform hear = perform hear' := by
  funext w a
  cases a with
  | listenInput l | listenInterrupt l | listenResize l | listenClose l => rfl
  | close reason =>
    rw [perform, perform, close, close, line_note]
    split
    · rfl
    · cases hlistener : w.line.onClose with
      | none => rfl
      | some l =>
        exact h l (.closed reason)
          ((w.note (.closing reason (some l))).onLine
            fun c => { c with isClosed := true, onClose := none }) rfl

/-- At a closed connection no act tells anybody anything. -/
theorem foldl_of_isClosed (acts : List (Act η)) {w : Noted η} (h : w.line.isClosed = true) :
    acts.foldl (perform hear) w = acts.foldl (perform hear') w := by
  induction acts generalizing w with
  | nil => rfl
  | cons a rest ih =>
    cases a with
    | listenInput l | listenInterrupt l | listenResize l | listenClose l => exact ih h
    | close reason =>
      have hsame (hear : Hearing (List (Note η)) η) : (w.perform hear (.close reason)) =
          w.note (.closing reason w.line.onClose) :=
        close_of_isClosed hear reason (w.note (.closing reason w.line.onClose)) h
      rw [List.foldl_cons, List.foldl_cons, hsame, hsame]
      exact ih h

end Depth

/-- A telling is inside of at most one other, so that more depth changes nothing. -/
theorem hearWithin_add_two (script : Script η) (depth : Nat) :
    script.hearWithin (depth + 2) = script.hear := by
  have hperform : perform (script.hearWithin (depth + 1)) = perform (script.hearWithin 1) :=
    perform_eq fun _ _ _ h => foldl_of_isClosed _ h
  funext l event w
  exact congrArg (fun f => List.foldl f _ _) hperform

end Wired

/-! ### The loop -/

namespace Decoder

variable {η : Type}

theorem decodeReads_cons_of_none {k : Taken η} (h : k.octets? = none) (d : Decoder)
    (rest : List (Taken η)) : d.decodeReads (k :: rest) = d.decodeReads rest := by
  rw [decodeReads, h]

theorem decodeReads_cons_of_some {k : Taken η} {o : Octets} (h : k.octets? = some o)
    (d : Decoder) (rest : List (Taken η)) :
    d.decodeReads (k :: rest) =
      (((d.decode o).1.decodeReads rest).1,
        ((d.decode o).2, k) :: ((d.decode o).1.decodeReads rest).2) := by
  rw [decodeReads, h]

theorem owed_cons (t : Text) (k : Taken η) (rest : List (Text × Taken η)) :
    owed ((t, k) :: rest) = (k.owes t).toList ++ owed rest := by
  cases h : k.owes t with
  | none => exact List.filterMap_cons_none h
  | some what => exact List.filterMap_cons_some h

theorem mem_of_mem_decodeReads {d : Decoder} {ks : List (Taken η)} {p : Text × Taken η}
    (h : p ∈ (d.decodeReads ks).2) : p.2 ∈ ks := by
  induction ks generalizing d with
  | nil => exact absurd h List.not_mem_nil
  | cons k rest ih =>
    cases hk : k.octets? with
    | none =>
      rw [decodeReads_cons_of_none hk] at h
      exact List.mem_cons_of_mem k (ih h)
    | some o =>
      rw [decodeReads_cons_of_some hk] at h
      obtain rfl | h := List.mem_cons.mp h
      · exact List.mem_cons_self
      · exact List.mem_cons_of_mem k (ih h)

theorem decodeReads_append (d : Decoder) (ks ls : List (Taken η)) :
    d.decodeReads (ks ++ ls) =
      (((d.decodeReads ks).1.decodeReads ls).1,
        (d.decodeReads ks).2 ++ ((d.decodeReads ks).1.decodeReads ls).2) := by
  induction ks generalizing d with
  | nil => rfl
  | cons k rest ih =>
    rw [List.cons_append]
    cases h : k.octets? with
    | none => rw [decodeReads_cons_of_none h, decodeReads_cons_of_none h, ih]
    | some o =>
      rw [decodeReads_cons_of_some h, decodeReads_cons_of_some h, ih, List.cons_append]

/-- What is decoded from the reads is what is decoded from their octets. -/
theorem decodeAll_octets (d : Decoder) (ks : List (Taken η)) :
    d.decodeAll (ks.filterMap Taken.octets?) =
      ((d.decodeReads ks).1, (d.decodeReads ks).2.flatMap Prod.fst) := by
  induction ks generalizing d with
  | nil => rfl
  | cons k rest ih =>
    cases h : k.octets? with
    | none => rw [List.filterMap_cons_none h, decodeReads_cons_of_none h, ih]
    | some o =>
      simp only [List.filterMap_cons_some h, decodeReads_cons_of_some h, decodeAll, ih,
        List.flatMap_cons]

end Decoder

namespace Course

variable {η : Type} {script : Script η}

/-- Nothing is read from a closed connection. -/
theorem round_of_isClosed (script : Script η) {c : Course η} (h : c.wired.line.isClosed = true) :
    (c.round script).wired = c.wired ∧ (c.round script).taken = c.taken := by
  rw [round]
  cases c.loop with
  | none => exact ⟨rfl, rfl⟩
  | some l => simp [h]

/-- As long as the connection is open, a round takes the next read. -/
theorem round_of_read {c : Course η} (hopen : c.wired.line.isClosed = false) {d : Decoder}
    {r : ReadResult} {rest : List ReadResult} (hloop : c.loop = some (d, r :: rest)) :
    c.round script = c.takeRead script d r rest := by
  rw [round, hloop]
  simp only [hopen, Bool.false_eq_true, if_false]

theorem round_of_end {c : Course η} (hopen : c.wired.line.isClosed = false) {d : Decoder}
    (hloop : c.loop = some (d, [])) : c.round script = c.takeRead script d (.octets []) [] := by
  rw [round, hloop]
  simp only [hopen, Bool.false_eq_true, if_false]

theorem rounds_of_isClosed {c : Course η} (h : c.wired.line.isClosed = true) (n : Nat) :
    (c.run script (List.replicate n .round)).wired = c.wired := by
  induction n generalizing c with
  | zero => rfl
  | succ n ih =>
    have hround := (round_of_isClosed script h).1
    rw [List.replicate_succ, run, List.foldl_cons]
    exact (ih (hround.symm ▸ h)).trans hround

/-- The loop is its rounds with nothing in between. -/
theorem loop_eq_rounds {c : Course η} {d : Decoder} {reads : List ReadResult}
    (hloop : c.loop = some (d, reads)) :
    c.wired.loop script.hear reads d =
      (c.run script (List.replicate (reads.length + 1) .round)).wired := by
  induction reads generalizing c d with
  | nil =>
    rw [List.length_nil, List.replicate_one, run, List.foldl_cons, List.foldl_nil, step, round,
      hloop]
    cases hclosed : c.wired.line.isClosed with
    | true => exact Wired.loop_of_isClosed _ _ _ _ hclosed
    | false => rfl
  | cons r rest ih =>
    rw [List.length_cons, List.replicate_succ, run, List.foldl_cons, step, round, hloop]
    cases hclosed : c.wired.line.isClosed with
    | true =>
      rw [Wired.loop_of_isClosed _ _ _ _ hclosed]
      exact (rounds_of_isClosed (c := { c with loop := none }) hclosed _).symm
    | false =>
      rw [Wired.loop, if_neg (by simp [hclosed])]
      exact ih (c := c.takeRead script d r rest) rfl

/-- The loop as a whole is its rounds with nothing in between. -/
theorem runLoop_eq_rounds (line : Connection η) (reads : List ReadResult) :
    (fresh line reads).wired.runLoop script.hear =
      ((fresh line reads).run script
        (.start :: List.replicate (reads.length + 1) .round)).wired :=
  loop_eq_rounds (c := (fresh line reads).start) rfl

/-- Taking a read from an open connection tells what is owed for that read, and a read that closes
the connection is its first closing. -/
theorem noted_takeRead (script : Script η) {w : Noted η} (d : Decoder) (r : ReadResult)
    (h : w.ClosedBy none) :
    (w.takeRead script.hear d r).1 = (d.decodeReads [Taken.now w.line r]).1 ∧
    ((w.takeRead script.hear d r).2.line.reads = w.line.reads ∧
      (w.takeRead script.hear d r).2.line.charset = w.line.charset) ∧
    ∃ more, (w.takeRead script.hear d r).2.state = w.state ++ more ∧
      more.filterMap Note.handed? = Decoder.owed (d.decodeReads [Taken.now w.line r]).2 ∧
      (w.takeRead script.hear d r).2.ClosedBy
        ((Taken.now w.line r).closing?.or (more.findSome? Note.closing?)) := by
  have hhear := Wired.actsThrough_hear script
  have hclose (reason : CloseReason) := Wired.noted_close (w := w) hhear reason
  match r with
  | .octets [] =>
    obtain ⟨hline, more, hstate, hhanded, hclosed⟩ := hclose .endOfStream
    refine ⟨?_, hline, more, hstate, ?_, hclosed h⟩
    · rw [Decoder.decodeReads_cons_of_some rfl, Decoder.decode_nil]
      rfl
    · rw [hhanded, Decoder.decodeReads_cons_of_some rfl, Decoder.decode_nil]
      rfl
  | .octets (o :: os) =>
    obtain ⟨hline, more, hstate, hhanded, hclosed⟩ :=
      Wired.acted_deliver (w := w) hhear (.octets (o :: os)) (d.decode (o :: os)).2
    refine ⟨rfl, hline, more, hstate, ?_, hclosed none h⟩
    rw [hhanded, Decoder.decodeReads_cons_of_some rfl, Decoder.owed_cons]
    exact (List.append_nil _).symm
  | .interrupted => exact ⟨rfl, ⟨rfl, rfl⟩, [], (List.append_nil _).symm, rfl, h⟩
  | .failed report =>
    obtain ⟨hline, more, hstate, hhanded, hclosed⟩ := hclose (.failed report)
    exact ⟨rfl, hline, more, hstate, hhanded, hclosed h⟩

/-- A read that is taken is decoded after those before it. -/
theorem decoded_takeRead {script : Script η} {c : Course η} {d : Decoder} {r : ReadResult}
    (hcharset : (c.wired.takeRead script.hear d r).2.line.charset = c.wired.line.charset)
    (rest : List ReadResult) :
    (c.takeRead script d r rest).decoded =
      ((c.decoded.1.decodeReads [.now c.wired.line r]).1,
        c.decoded.2 ++ (c.decoded.1.decodeReads [.now c.wired.line r]).2) := by
  change Decoder.decodeReads { charset := (c.wired.takeRead _ _ r).2.line.charset }
    (c.taken ++ [_]) = _
  rw [hcharset, Decoder.decodeReads_append]
  rfl

/-- A read that is taken may be the first closing, or else a call in answer to it. -/
theorem firstClosing_takeRead {script : Script η} {c : Course η} {d : Decoder} {r : ReadResult}
    {more : List (Note η)} (hnone : c.firstClosing = none)
    (hstate : (c.wired.takeRead script.hear d r).2.state = c.wired.state ++ more)
    (rest : List ReadResult) :
    (c.takeRead script d r rest).firstClosing =
      (Taken.now c.wired.line r).closing?.or (more.findSome? Note.closing?) := by
  obtain ⟨hreads, hcalls⟩ := Option.or_eq_none_iff.mp hnone
  change (List.findSome? _ (c.taken ++ [_])).or
    (List.findSome? _ (c.wired.takeRead _ _ r).2.state) = _
  rw [hstate, List.findSome?_append, List.findSome?_append, hreads, hcalls, Option.none_or,
    Option.none_or, List.findSome?_singleton]

/-- What one step after the other keeps. The loop is started once, and has the rest of the reads as
long as the connection is open. -/
structure Sound (charset : Charset) (reads : List ReadResult) (c : Course η) : Prop where
  charset : c.wired.line.charset = charset
  handed : c.handed = c.owed
  closed : c.wired.ClosedBy c.firstClosing
  goesOn : ∀ k ∈ c.taken.dropLast, k.closing? = none
  taken : c.taken.map Taken.read <+: reads ++ [.octets []]
  loop : c.wired.line.reads = some reads ∧ c.taken = [] ∧ c.loop = none ∨
    c.wired.line.reads = none ∧ (c.wired.line.isClosed = false → ∃ rest,
      c.loop = some (c.decoded.1, rest) ∧ c.taken.map Taken.read ++ rest = reads)

namespace Sound

variable {charset : Charset} {reads : List ReadResult} {c : Course η}

theorem fresh (line : Connection η) (reads : List ReadResult) :
    (Course.fresh line reads).Sound line.charset reads :=
  ⟨rfl, rfl, ⟨rfl, rfl⟩, fun _ h => absurd h List.not_mem_nil, List.nil_prefix,
    .inl ⟨rfl, rfl, rfl⟩⟩

theorem act (h : c.Sound charset reads) (a : Act η) :
    (c.step script (.act a)).Sound charset reads := by
  obtain ⟨⟨hreads, hcharset⟩, more, hstate, hhanded, hclosed⟩ :=
    Wired.acted_perform (w := c.wired) (Wired.actsThrough_hear script) a
  have hfirst : (c.step script (.act a)).firstClosing =
      c.firstClosing.or (more.findSome? Note.closing?) := by
    rw [firstClosing, firstClosing, Option.or_assoc, ← List.findSome?_append, ← hstate]
    rfl
  have hdecoded : (c.step script (.act a)).decoded = c.decoded := by
    rw [decoded, decoded, ← hcharset]
    rfl
  have hended : (c.step script (.act a)).wired.ClosedBy (c.step script (.act a)).firstClosing :=
    hfirst ▸ hclosed c.firstClosing h.closed
  refine ⟨hcharset.trans h.charset, ?_, hended, h.goesOn, h.taken, ?_⟩
  · change (c.wired.perform script.hear a).state.filterMap Note.handed? = Decoder.owed _
    rw [hstate, List.filterMap_append, hhanded, List.append_nil, hdecoded]
    exact h.handed
  · refine h.loop.imp (fun hbefore => ⟨hreads.trans hbefore.1, hbefore.2⟩) ?_
    rintro ⟨hnone, hrest⟩
    refine ⟨hreads.trans hnone, ?_⟩
    intro hopen
    -- what is open now was open before
    have hbefore := (Option.or_eq_none_iff.mp (hfirst ▸ hended.eq_none hopen)).1
    have hopen' : c.wired.line.isClosed = false := by
      rw [h.closed.isClosed, hbefore]
      rfl
    rw [hdecoded]
    exact hrest hopen'

theorem start (h : c.Sound charset reads) : (c.step script .start).Sound charset reads := by
  rw [step, Course.start]
  obtain ⟨hreads, htaken, -⟩ | ⟨hreads, -⟩ := h.loop
  · rw [hreads]
    refine ⟨h.charset, h.handed, ⟨h.closed.isClosed, h.closed.ended⟩, h.goesOn, h.taken,
      .inr ⟨rfl, ?_⟩⟩
    intro hopen
    refine ⟨reads, ?_, ?_⟩
    · rw [decoded, htaken]
      rfl
    · rw [htaken]
      rfl
  · rw [hreads]
    exact h

/-- The loop takes a read. -/
theorem takeRead (h : c.Sound charset reads) (hreads : c.wired.line.reads = none)
    (hopen : c.wired.line.isClosed = false) {r : ReadResult} {rest : List ReadResult}
    (htaken : c.taken.map Taken.read ++ [r] <+: reads ++ [.octets []])
    (hrest : r.closing? = none → c.taken.map Taken.read ++ r :: rest = reads) :
    (c.takeRead script c.decoded.1 r rest).Sound charset reads := by
  have hnone := h.closed.eq_none hopen
  obtain ⟨hdecoder, ⟨hreads', hcharset⟩, more, hstate, hhanded, hclosed⟩ :=
    noted_takeRead script c.decoded.1 r (hnone ▸ h.closed)
  have hdecoded := decoded_takeRead hcharset rest
  have hfirst := firstClosing_takeRead hnone hstate rest
  have hended : (c.takeRead script c.decoded.1 r rest).wired.ClosedBy
      (c.takeRead script c.decoded.1 r rest).firstClosing := hfirst ▸ hclosed
  refine ⟨hcharset.trans h.charset, ?_, hended, ?_, ?_, .inr ⟨hreads'.trans hreads, ?_⟩⟩
  · change (c.wired.takeRead _ _ r).2.state.filterMap Note.handed? = Decoder.owed _
    rw [hstate, List.filterMap_append, hhanded, hdecoded, Decoder.owed, Decoder.owed,
      List.filterMap_append]
    exact congrArg (· ++ _) h.handed
  · intro k hk
    rw [Course.takeRead, List.dropLast_concat] at hk
    exact List.findSome?_eq_none_iff.mp (Option.or_eq_none_iff.mp hnone).1 k hk
  · rw [Course.takeRead, List.map_append]
    exact htaken
  · intro hopen'
    have hgoesOn := (Option.or_eq_none_iff.mp (hfirst ▸ hended.eq_none hopen')).1
    refine ⟨rest, ?_, ?_⟩
    · rw [hdecoded, Course.takeRead]
      exact congrArg (fun d => some (d, rest)) hdecoder
    · rw [Course.takeRead, List.map_append, List.append_assoc]
      exact hrest (Option.map_eq_none_iff.mp hgoesOn)

theorem round (h : c.Sound charset reads) : (c.step script .round).Sound charset reads := by
  rw [step]
  obtain ⟨-, -, hloop⟩ | ⟨hreads, hrest⟩ := h.loop
  · rw [Course.round, hloop]
    exact h
  · cases hclosed : c.wired.line.isClosed with
    | true =>
      rw [Course.round]
      cases c.loop with
      | none => exact h
      | some l =>
        rw [hclosed]
        refine ⟨h.charset, h.handed, h.closed, h.goesOn, h.taken, .inr ⟨hreads, ?_⟩⟩
        intro hopen
        exact absurd (hclosed.symm.trans hopen) Bool.noConfusion
    | false =>
      obtain ⟨rest, hloop, htaken⟩ := hrest hclosed
      cases rest with
      | nil =>
        rw [List.append_nil] at htaken
        rw [round_of_end hclosed hloop]
        refine h.takeRead hreads hclosed ?_ ?_
        · exact htaken ▸ List.prefix_rfl
        · intro hgoesOn
          cases hgoesOn
      | cons r rest =>
        rw [round_of_read hclosed hloop]
        refine h.takeRead hreads hclosed ?_ fun _ => htaken
        rw [← htaken, List.append_assoc]
        exact List.prefix_append_right_inj _ |>.mpr ⟨rest ++ [.octets []], rfl⟩

end Sound

/-- Whatever happens to a connection, and in whatever order. -/
theorem sound_run (script : Script η) {charset : Charset} {reads : List ReadResult}
    {c : Course η} (h : c.Sound charset reads) (steps : List (Step η)) :
    (c.run script steps).Sound charset reads := by
  induction steps generalizing c with
  | nil => exact h
  | cons s rest ih =>
    cases s with
    | act a => exact ih (h.act a)
    | start => exact ih h.start
    | round => exact ih h.round

/-! ### What is told in the end -/

variable {charset : Charset} {reads : List ReadResult} {c : Course η}

/-- Once the loop was started there is nothing left to start it with. -/
theorem Sound.reads_step (h : c.Sound charset reads) (hreads : c.wired.line.reads = none)
    (s : Step η) : (c.step script s).wired.line.reads = none := by
  cases s with
  | act a =>
    have hline := (Wired.acted_perform (w := c.wired) (Wired.actsThrough_hear script) a).line
    exact hline.1.trans hreads
  | start =>
    rw [step, Course.start, hreads]
    exact hreads
  | round =>
    rw [step]
    cases hclosed : c.wired.line.isClosed with
    | true =>
      rw [(round_of_isClosed script hclosed).1]
      exact hreads
    | false =>
      have htakeRead (d : Decoder) (r : ReadResult) :
          (c.wired.takeRead script.hear d r).2.line.reads = none :=
        (noted_takeRead script d r (h.closed.eq_none hclosed ▸ h.closed)).2.1.1.trans hreads
      match hloop : c.loop with
      | none => rw [Course.round, hloop]; exact hreads
      | some (d, []) => rw [round_of_end hclosed hloop]; exact htakeRead d (.octets [])
      | some (d, r :: rest) => rw [round_of_read hclosed hloop]; exact htakeRead d r

/-- A closed connection stays closed, and nothing is read from it. -/
theorem Sound.closed_step (script : Script η) (h : c.Sound charset reads)
    (hclosed : c.wired.line.isClosed = true) (s : Step η) :
    (c.step script s).wired.line.isClosed = true ∧ (c.step script s).taken = c.taken := by
  cases s with
  | act a =>
    obtain ⟨-, more, -, -, hfirst⟩ :=
      Wired.acted_perform (w := c.wired) (Wired.actsThrough_hear script) a
    have hfirst := (hfirst c.firstClosing h.closed).isClosed
    rw [Option.isSome_or, ← h.closed.isClosed, hclosed, Bool.true_or] at hfirst
    exact ⟨hfirst, rfl⟩
  | start =>
    rw [step, Course.start]
    cases c.wired.line.reads with
    | none | some rest => exact ⟨hclosed, rfl⟩
  | round =>
    obtain ⟨hwired, htaken⟩ := round_of_isClosed script hclosed
    exact ⟨(congrArg (·.line.isClosed) hwired).trans hclosed, htaken⟩

theorem Sound.reads_run (h : c.Sound charset reads) (hreads : c.wired.line.reads = none)
    (steps : List (Step η)) : (c.run script steps).wired.line.reads = none := by
  induction steps generalizing c with
  | nil => exact hreads
  | cons s rest ih => exact ih (sound_run script h [s]) (h.reads_step hreads s)

theorem Sound.closed_run (h : c.Sound charset reads) (hclosed : c.wired.line.isClosed = true)
    (steps : List (Step η)) : (c.run script steps).taken = c.taken := by
  induction steps generalizing c with
  | nil => rfl
  | cons s rest ih =>
    obtain ⟨hstill, htaken⟩ := h.closed_step script hclosed s
    exact (ih (sound_run script h [s]) hstill).trans htaken

theorem reads_of_start_mem (script : Script η) (line : Connection η) (reads : List ReadResult)
    {steps : List (Step η)} (h : .start ∈ steps) :
    ((fresh line reads).run script steps).wired.line.reads = none := by
  obtain ⟨before, rest, rfl⟩ := List.append_of_mem h
  have hsound := sound_run script (Sound.fresh line reads) before
  rw [run, List.foldl_append, List.foldl_cons]
  refine Sound.reads_run (sound_run script hsound [.start]) ?_ rest
  change (Course.start _).wired.line.reads = none
  rw [Course.start]
  split
  · assumption
  · rfl

/-- The loop that was started and has not stopped takes the next read. -/
theorem Sound.taken_round (h : c.Sound charset reads) (hreads : c.wired.line.reads = none)
    (hopen : c.wired.line.isClosed = false) :
    ∃ r, (reads ++ [.octets []])[c.taken.length]? = some r ∧
      (c.step script .round).taken = c.taken ++ [.now c.wired.line r] := by
  obtain ⟨hsome, -⟩ | ⟨-, hrest⟩ := h.loop
  · cases hsome.symm.trans hreads
  · obtain ⟨rest, hloop, htaken⟩ := hrest hopen
    rw [step, ← htaken, List.append_assoc, List.getElem?_append_right (by simp), List.length_map,
      Nat.sub_self]
    cases rest with
    | nil => exact ⟨_, rfl, by rw [round_of_end hopen hloop]; rfl⟩
    | cons r rest => exact ⟨r, rfl, by rw [round_of_read hopen hloop]; rfl⟩

/-- One who listens for input is handed every text but the interrupts that go to another. -/
theorem input_of_owes {k : Taken η} {l : η} (h : k.onInput = some l) (t : Text) :
    (k.owes t).toList.filterMap (fun (l, event) => event.text?.map (l, ·)) =
      if t.isEmpty || k.diverts t then [] else [(l, t)] := by
  rw [Taken.owes]
  cases t.isEmpty with
  | true => rfl
  | false =>
    cases k.diverts t with
    | true => cases k.onInterrupt with
      | none | some l => rfl
    | false => rw [h]; rfl

theorem inputs_of_handed (h : c.handed = c.owed) {l : η}
    (hl : ∀ k ∈ c.taken, k.onInput = some l) :
    (∀ p ∈ c.inputs, p.1 = l) ∧
      c.inputs.flatMap Prod.snd =
        (c.decoded.2.filter fun (t, k) => !k.diverts t).flatMap Prod.fst := by
  have htexts (p : Text × Taken η) (hp : p ∈ c.decoded.2) : p.2.onInput = some l :=
    hl p.2 (Decoder.mem_of_mem_decodeReads hp)
  rw [inputs, h, owed]
  generalize c.decoded.2 = texts at htexts
  induction texts with
  | nil => exact ⟨fun _ hp => absurd hp List.not_mem_nil, rfl⟩
  | cons p rest ih =>
    obtain ⟨t, k⟩ := p
    obtain ⟨hrest, htext⟩ := ih fun p hp => htexts p (List.mem_cons_of_mem _ hp)
    rw [Decoder.owed_cons, List.filterMap_append, input_of_owes (htexts (t, k) List.mem_cons_self)]
    cases hdiverts : k.diverts t with
    | true =>
      rw [Bool.or_true, if_pos rfl, List.nil_append, List.filter_cons_of_neg (by simp [hdiverts])]
      exact ⟨hrest, htext⟩
    | false =>
      rw [Bool.or_false, List.filter_cons_of_pos (by simp [hdiverts])]
      cases t with
      | nil => exact ⟨hrest, htext⟩
      | cons a t =>
        refine ⟨?_, congrArg (a :: t ++ ·) htext⟩
        intro p hp
        obtain rfl | hp := List.mem_cons.mp hp
        · rfl
        · exact hrest p hp

/-- Whatever listeners do, and in whatever order a connection is read, listened to and closed: they
are handed the decoded reads, each by whoever listens when it is taken, and a read that is broken
off leaves the octets around it together. The loop stops at the first closing, be that a read or a
call, and takes no read afterwards; one that was started and is open takes the next read. Of the
end there is told the one who listened at the first closing, and nobody else, with its reason. Only
the first start counts. -/
theorem told_as_read (script : Script η) (line : Connection η) (reads : List ReadResult)
    (steps : List (Step η)) :
    let c := (fresh line reads).run script steps
    (c.handed = c.owed ∧
      c.decoded.2.flatMap Prod.fst =
        (Decoder.decodeAll { charset := line.charset } (c.taken.filterMap Taken.octets?)).2 ∧
      ∀ l, (∀ k ∈ c.taken, k.onInput = some l) →
        (∀ p ∈ c.inputs, p.1 = l) ∧
          c.inputs.flatMap Prod.snd =
            (c.decoded.2.filter fun (t, k) => !k.diverts t).flatMap Prod.fst) ∧
    (c.taken.map Taken.read <+: reads ++ [.octets []] ∧
      (∀ k ∈ c.taken.dropLast, k.closing? = none) ∧
      c.wired.line.isClosed = c.firstClosing.isSome ∧
      (c.wired.line.isClosed = true → ∀ more, (c.run script more).taken = c.taken) ∧
      (.start ∈ steps → c.wired.line.isClosed = false →
        ∃ r, (reads ++ [.octets []])[c.taken.length]? = some r ∧
          (c.step script .round).taken = c.taken ++ [.now c.wired.line r])) ∧
    c.wired.state.filterMap Note.ended? =
      (c.firstClosing.bind fun closing => closing.2.map (·, closing.1)).toList ∧
    (.start ∈ steps → c.wired.runLoop script.hear = c.wired ∧ c.step script .start = c) := by
  intro c
  have hsound : c.Sound line.charset reads := sound_run script (.fresh line reads) steps
  refine ⟨⟨hsound.handed, ?_, fun l hl => inputs_of_handed hsound.handed hl⟩,
    ⟨hsound.taken, hsound.goesOn, hsound.closed.isClosed, hsound.closed_run, ?_⟩,
    hsound.closed.ended, ?_⟩
  · rw [Decoder.decodeAll_octets, decoded, hsound.charset]
  · intro hstart hopen
    exact hsound.taken_round (reads_of_start_mem script line reads hstart) hopen
  · intro hstart
    have hreads := reads_of_start_mem script line reads hstart
    constructor
    · rw [Wired.runLoop, hreads]
    · rw [step, start, hreads]

/-- A listener that leaves at a `q`, listens for the end again when told of it, and calls once
more to close. The read before was broken off inside a character, and an interrupt went to another;
later calls and another start change nothing. -/
theorem told_as_read_leaving :
    let script : Script Nat := fun notes =>
      match notes.getLast? with
      | some (.told _ (.input ['q'])) => [.close .requested, .close .endOfStream]
      | some (.told l (.closed _)) => [.listenClose (some l)]
      | _ => []
    let line : Connection Nat := { onInput := some 0, onInterrupt := some 1, onClose := some 2 }
    let reads : List ReadResult :=
      [.octets [0x61, 0xC3], .interrupted, .octets [0xA9], .octets [0x03], .octets [0x71],
        .octets [0x62]]
    let steps : List (Step Nat) :=
      .start :: List.replicate 7 .round ++ [.act (.close .endOfStream), .start, .round]
    let c := (fresh line reads).run script steps
    (∀ k ∈ c.taken, k.onInput = some 0) ∧ .start ∈ steps ∧ c.wired.line.isClosed = true ∧
      c.handed = [(0, .input ['a']), (0, .input ['é']), (1, .interrupt), (0, .input ['q'])] ∧
      c.inputs.flatMap Prod.snd = ['a', 'é', 'q'] ∧
      c.wired.state.filterMap Note.ended? = [(2, .requested)] ∧
      c.taken.length = 5 ∧ c.wired.runLoop script.hear = c.wired := by
  intro script line reads steps c
  obtain ⟨⟨hhanded, -, hinputs⟩, -, hended, honce⟩ := told_as_read script line reads steps
  have hfixed : ∀ k ∈ c.taken, k.onInput = some 0 := by decide +kernel
  have hstart : .start ∈ steps := by simp [steps]
  refine ⟨hfixed, hstart, ?_, ?_, ?_, ?_, ?_, (honce hstart).1⟩
  · decide +kernel
  · rw [hhanded]
    decide +kernel
  · rw [(hinputs 0 hfixed).2]
    decide +kernel
  · rw [hended]
    decide +kernel
  · decide +kernel

end Course

end LineEditor

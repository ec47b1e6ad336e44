import LineEditor.Proofs.Access.Basic
import LineEditor.Proofs.Chunks

/-!
# The reader of keys with checked accesses

A reader that keeps the code points it is in the middle of looks at them by index: the second one
tells what kind of sequence was started, what follows the first two is the body of a control
sequence, and the end of a paste is cut off by octets. All of this is in range because of what the
code points look like, which is what the reader of keys keeps in its mode.

## Main definitions

* `HeldReader` keeps the code points of a sequence, the paste that is open, and whether a return was
  just read. `HeldReader.push?` reads a code point with checked accesses, `HeldReader.feed?` reads a
  chunk.
* `KeyReader.held` is what a reader of keys keeps in this form.
* `HeldReader.WellFormed` — what the code points of a sequence look like.
* `KeyReader.Bounded` — a control sequence is not too long, and a paste does not begin after a
  return.

## Main results

* `KeyReader.reads_push`, `KeyReader.reads_feed` — both readers read the same.
* `KeyReader.Bounded.wellFormed_held` — the code points that are kept are well-formed.
-/

namespace LineEditor

open Access KeyReader

/-- A reader of keys that keeps code points: those of the sequence it is in the middle of, those of
the paste that is open, and whether a return was just read. -/
structure HeldReader where
  pending : Text := []
  paste : Option Text := none
  afterReturn : Bool := false
  deriving DecidableEq, Repr

namespace HeldReader

/-- What the code points that are kept look like. -/
structure WellFormed (r : HeldReader) : Prop where
  starts : r.pending = [] ∨ r.pending.head? = some '\x1b'
  length_lt : r.pending.length < 16
  second : ∀ c, r.pending[1]? = some c → c = '[' ∨ c = 'O'
  control : 2 < r.pending.length → r.pending[1]? = some '['
  paste : r.paste ≠ none → r.pending = []

/-- The letter of a control code. -/
def letter? (c : Char) : Option Char := do
  let index ← minus? c.toNat 1
  let code ← byte? 0x61 index
  pure (Char.ofNat code)

/-- The key that an escape and then `c` stand for. -/
def altKey? (c : Char) : Option Key :=
  if c = '\x7f' ∨ c = '\x08' then pure ⟨.backspace, ⟨false, true, false⟩⟩
  else if c = '\r' then pure ⟨.enter, ⟨false, true, false⟩⟩
  else if isLetterCode c then do
    let letter ← letter? c
    pure ⟨.char letter, ⟨true, true, false⟩⟩
  else pure (Key.alt c)

/-- A code point outside any sequence. -/
def pushPlain? (r : HeldReader) (wasReturn : Bool) (c : Char) :
    Option (HeldReader × List Token) :=
  if c = '\x1b' then pure ({ r with pending := r.pending ++ [c] }, [])
  else if c = '\r' then pure ({ r with afterReturn := true }, [.key (.plain .enter)])
  else if c = '\n' then pure (r, if wasReturn then [] else [.key (.plain .enter)])
  else if c = '\t' then pure (r, [.key (.plain .tab)])
  else if c = '\x7f' ∨ c = '\x08' then pure (r, [.key (.plain .backspace)])
  else if c = '\x00' then pure (r, [.key (.ctrl ' ')])
  else if isLetterCode c then do
    let letter ← letter? c
    pure (r, [.key (.ctrl letter)])
  else if 0x1C ≤ c.toNat ∧ c.toNat ≤ 0x1F then do
    let code ← byte? c.toNat 0x40
    pure (r, [.key (.ctrl (Char.ofNat code))])
  else if Unicode.isControl c then pure (r, [])
  else pure (r, [.key (.char c)])

/-- The body of a control sequence, the last code point of which ends it. -/
def resolve? (r : HeldReader) (body : Text) : Option (HeldReader × List Token) :=
  if body = pasteStart ++ ['~'] then pure ({ r with paste := some [] }, [])
  else
    match body.getLast? with
    | none => pure (r, [])
    | some final => do
      let params ← cutEnd? body [final]
      pure (r, ((controlKey? params final).map Token.key).toList)

/-- A code point inside a sequence. -/
def pushSequence? (r : HeldReader) (c : Char) : Option (HeldReader × List Token) :=
  if r.pending.length = 1 then
    if c = '[' ∨ c = 'O' then pure ({ r with pending := r.pending ++ [c] }, [])
    else if c = '\x1b' then pure (r, [.key (.plain .escape)])
    else do
      let key ← altKey? c
      pure ({ r with pending := [] }, [.key key])
  else if r.pending.length = 2 ∧ r.pending[1]? = some 'O' then
    pure ({ r with pending := [] }, ((cursorKey? c).map fun code => Token.key (.plain code)).toList)
  else
    let pending := r.pending ++ [c]
    if '@' ≤ c ∧ c ≤ '~' then do
      let body ← slice? pending 2 pending.length
      resolve? { r with pending := [] } body
    else if maxSequence ≤ pending.length then pure ({ r with pending := [] }, [])
    else pure ({ r with pending }, [])

/-- A code point of a paste. -/
def pushPaste? (r : HeldReader) (body : Text) (c : Char) : Option (HeldReader × List Token) :=
  let body := body ++ [c]
  if pasteEnd.isSuffixOf body then do
    let pasted ← cutEnd? body pasteEnd
    pure ({ r with paste := none }, [.paste pasted])
  else pure ({ r with paste := some body }, [])

/-- Reads a code point. -/
def push? (r : HeldReader) (c : Char) : Option (HeldReader × List Token) :=
  match r.paste with
  | some body => r.pushPaste? body c
  | none =>
    if r.pending.isEmpty then { r with afterReturn := false }.pushPlain? r.afterReturn c
    else { r with afterReturn := false }.pushSequence? c

/-- Reads several code points, one after the other. -/
def pushAll? (r : HeldReader) : Text → Option (HeldReader × List Token)
  | [] => pure (r, [])
  | c :: rest => do
    let first ← r.push? c
    let others ← first.1.pushAll? rest
    pure (others.1, first.2 ++ others.2)

/-- Reads one chunk of input. An escape with nothing after it is the Escape key. -/
def feed? (r : HeldReader) (chunk : Text) : Option (HeldReader × List Token) := do
  let pushed ← r.pushAll? chunk
  if pushed.1.pending = ['\x1b'] then
    pure ({ pushed.1 with pending := [] }, pushed.2 ++ [.key (.plain .escape)])
  else pure pushed

/-! ### Calculating with octets -/

variable {c : Char}

theorem letter?_eq (h : isLetterCode c = true) : letter? c = some (letterOf c) := by
  have hrange : 1 ≤ c.toNat ∧ c.toNat ≤ 0x1A := by simpa [isLetterCode] using h
  rw [letter?, minus?_eq hrange.1]
  show (do let code ← byte? 0x61 (c.toNat - 1); pure (Char.ofNat code)) = _
  have hcode : 0x61 + (c.toNat - 1) = c.toNat + 0x60 := by omega
  rw [byte?_eq (by omega), hcode]
  rfl

theorem altKey?_eq (c : Char) : altKey? c = some (altKey c) := by
  rw [altKey?, altKey]
  split
  · rfl
  · split
    · rfl
    · split
      · next hletter =>
        rw [letter?_eq hletter]
        rfl
      · rfl

/-- The last code point of a body is cut off, whatever it is. -/
theorem resolve?_concat (r : HeldReader) (body : Text) (c : Char) :
    r.resolve? (body ++ [c]) =
      if c = '~' ∧ body = pasteStart then some ({ r with paste := some [] }, [])
      else some (r, ((controlKey? body c).map Token.key).toList) := by
  have hpaste : body ++ [c] = pasteStart ++ ['~'] ↔ c = '~' ∧ body = pasteStart := by
    constructor
    · intro h
      obtain ⟨hbody, hfinal⟩ := List.append_inj' h rfl
      exact ⟨List.singleton_inj.mp hfinal, hbody⟩
    · rintro ⟨rfl, rfl⟩
      rfl
  rw [resolve?, List.getLast?_concat]
  simp only [hpaste, cutEnd?_append]
  rfl

/-- The end of a paste is cut off between two code points. -/
theorem pushPaste?_eq (r : HeldReader) (body : Text) (c : Char) :
    r.pushPaste? body c =
      if pasteEnd.isSuffixOf (body ++ [c]) then
        some ({ r with paste := none },
          [.paste ((body ++ [c]).take ((body ++ [c]).length - pasteEnd.length))])
      else some ({ r with paste := some (body ++ [c]) }, []) := by
  rw [pushPaste?]
  split
  · next hend =>
    obtain ⟨pasted, hpasted⟩ := List.isSuffixOf_iff_suffix.mp hend
    have htake : (pasted ++ pasteEnd).take ((pasted ++ pasteEnd).length - pasteEnd.length) =
        pasted := by
      rw [List.length_append, Nat.add_sub_cancel, List.take_left]
    rw [← hpasted, htake, cutEnd?_append]
    rfl
  · rfl

end HeldReader

namespace KeyReader

/-- What the reader of keys is in the middle of, as code points. -/
def held (r : KeyReader) : HeldReader where
  pending := r.pending
  paste := match r.mode with | .paste body => some body | _ => none
  afterReturn := r.afterReturn

/-- A control sequence is not too long, and no line feed of a return is waited for in a paste. -/
structure Bounded (r : KeyReader) : Prop where
  control : ∀ body, r.mode = .control body → body.length + 2 < maxSequence
  paste : ∀ body, r.mode = .paste body → r.afterReturn = false

theorem bounded_fresh : Bounded {} where
  control _ h := nomatch h
  paste _ h := nomatch h

variable {r : KeyReader}

/-- A reader in the middle of something other than a control sequence and a paste. -/
theorem bounded_of_mode {mode : Mode} {afterReturn : Bool} (hcontrol : ∀ body, mode ≠ .control body)
    (hpaste : ∀ body, mode ≠ .paste body) : Bounded ⟨mode, afterReturn⟩ where
  control body h := absurd h (hcontrol body)
  paste body h := absurd h (hpaste body)

theorem bounded_ground (afterReturn : Bool) : Bounded ⟨.ground, afterReturn⟩ :=
  bounded_of_mode nofun nofun

theorem bounded_ite {p : Prop} [Decidable p] {s t : KeyReader × List Token}
    (hs : s.1.Bounded) (ht : t.1.Bounded) : (if p then s else t).1.Bounded := by
  split
  · exact hs
  · exact ht

theorem bounded_stepGround (afterReturn : Bool) (c : Char) :
    (stepGround afterReturn c).1.Bounded := by
  have hescape : Bounded ⟨.escape, false⟩ := bounded_of_mode nofun nofun
  rw [stepGround]
  apply bounded_ite
  · exact hescape
  · -- nothing else begins a sequence
    repeat' apply bounded_ite
    all_goals exact bounded_ground _

theorem bounded_stepEscape (c : Char) : (stepEscape c).1.Bounded := by
  rw [stepEscape]
  split
  · refine ⟨?_, nofun⟩
    intro body hbody
    obtain rfl := Mode.control.inj hbody
    decide
  · split
    · exact bounded_of_mode nofun nofun
    · split
      · exact bounded_of_mode nofun nofun
      · exact bounded_fresh

theorem bounded_stepControl (body : Text) (c : Char) : (stepControl body c).1.Bounded := by
  rw [stepControl]
  split
  · split
    · exact ⟨nofun, fun _ _ => rfl⟩
    · exact bounded_fresh
  · split
    · next hroom =>
      refine ⟨?_, nofun⟩
      intro longer hlonger
      obtain rfl := Mode.control.inj hlonger
      rw [List.length_append]
      exact hroom
    · exact bounded_fresh

theorem bounded_stepPaste (body : Text) (c : Char) : (stepPaste body c).1.Bounded := by
  rw [stepPaste]
  split
  · exact bounded_fresh
  · exact ⟨nofun, fun _ _ => rfl⟩

/-- Whatever is read, a control sequence is dropped before it gets too long. -/
theorem bounded_step (r : KeyReader) (c : Char) : (r.step c).1.Bounded := by
  rw [step]
  split
  · exact bounded_stepGround _ _
  · exact bounded_stepEscape _
  · exact bounded_fresh
  · exact bounded_stepControl _ _
  · exact bounded_stepPaste _ _

theorem Bounded.steps (h : r.Bounded) (t : Text) : (r.steps t).1.Bounded := by
  induction t generalizing r with
  | nil => exact h
  | cons c t ih => exact ih (r.bounded_step c)

theorem Bounded.feed (h : r.Bounded) (chunk : Text) : (r.feed chunk).1.Bounded := by
  have hsteps := h.steps chunk
  rw [KeyReader.feed]
  dsimp only
  rw [settle]
  split
  · exact bounded_ground _
  · exact hsteps

/-- What a reader of keys keeps is well-formed. -/
theorem Bounded.wellFormed_held (h : r.Bounded) : r.held.WellFormed := by
  obtain ⟨mode, afterReturn⟩ := r
  have hnone : 0 < 16 := by decide
  have hone : 1 < 16 := by decide
  have htwo : 2 < 16 := by decide
  cases mode with
  | ground => exact ⟨.inl rfl, hnone, nofun, nofun, fun _ => rfl⟩
  | escape => exact ⟨.inr rfl, hone, nofun, nofun, fun hpaste => absurd rfl hpaste⟩
  | shifted =>
    refine ⟨.inr rfl, htwo, ?_, fun hlong => absurd hlong (Nat.lt_irrefl 2), ?_⟩
    · intro c hc
      exact .inr (Option.some.inj hc).symm
    · exact fun hpaste => absurd rfl hpaste
  | control body =>
    refine ⟨.inr rfl, h.control body rfl, ?_, fun _ => rfl, fun hpaste => absurd rfl hpaste⟩
    intro c hc
    exact .inl (Option.some.inj hc).symm
  | paste body => exact ⟨.inl rfl, hnone, nofun, nofun, fun _ => rfl⟩

/-! ### Both readers read the same -/

/-- A reader that keeps code points comes to what a reader of keys comes to. -/
def Reads (checked : Option (HeldReader × List Token)) (after : KeyReader × List Token) : Prop :=
  checked = some (after.1.held, after.2)

theorem reads_ite {p : Prop} [Decidable p] {checked checked' : Option (HeldReader × List Token)}
    {after after' : KeyReader × List Token} (h : p → Reads checked after)
    (h' : ¬p → Reads checked' after') :
    Reads (if p then checked else checked') (if p then after else after') := by
  split
  · next hp => exact h hp
  · next hp => exact h' hp

/-- Control codes are letters, or characters close to them, that are shifted down. -/
theorem reads_pushPlain (wasReturn : Bool) (c : Char) :
    Reads (HeldReader.pushPlain? {} wasReturn c) (stepGround wasReturn c) := by
  rw [HeldReader.pushPlain?, stepGround]
  -- an escape starts a sequence, and letters and other control codes are calculated
  refine reads_ite (fun hescape => ?_) fun _ => reads_ite (fun _ => rfl) fun _ =>
    reads_ite (fun _ => rfl) fun _ => reads_ite (fun _ => rfl) fun _ =>
    reads_ite (fun _ => rfl) fun _ => reads_ite (fun _ => rfl) fun _ =>
    reads_ite (fun hletter => ?_) fun _ => reads_ite (fun hcode => ?_) fun _ =>
    reads_ite (fun _ => rfl) fun _ => rfl
  · rw [hescape]
    rfl
  · rw [HeldReader.letter?_eq hletter]
    rfl
  · rw [byte?_eq (by omega)]
    rfl

theorem reads_pushSequence_escape (c : Char) :
    Reads (HeldReader.pushSequence? { pending := ['\x1b'] } c) (stepEscape c) := by
  have hone : (['\x1b'] : Text).length = 1 := rfl
  rw [HeldReader.pushSequence?, stepEscape, if_pos hone]
  by_cases hcontrol : c = '['
  · rw [if_pos (.inl hcontrol), if_pos hcontrol, hcontrol]
    rfl
  · by_cases hshifted : c = 'O'
    · rw [if_pos (.inr hshifted), if_neg hcontrol, if_pos hshifted, hshifted]
      rfl
    · rw [if_neg (not_or_intro hcontrol hshifted), if_neg hcontrol, if_neg hshifted,
        HeldReader.altKey?_eq]
      split
      · rfl
      · rfl

theorem reads_pushSequence_shifted (c : Char) :
    Reads (HeldReader.pushSequence? { pending := ['\x1b', 'O'] } c)
      ({}, ((cursorKey? c).map fun code => Token.key (.plain code)).toList) := by
  rw [HeldReader.pushSequence?, if_neg (by decide), if_pos ⟨rfl, rfl⟩]
  rfl

/-- The body of a control sequence is what follows the first two code points. -/
theorem reads_pushSequence_control (body : Text) (c : Char) :
    Reads (HeldReader.pushSequence? { pending := '\x1b' :: '[' :: body } c)
      (stepControl body c) := by
  have hnotShort : ('\x1b' :: '[' :: body).length ≠ 1 := by simp
  have hnotShifted : ¬(('\x1b' :: '[' :: body).length = 2 ∧
      ('\x1b' :: '[' :: body)[1]? = some 'O') := fun h => absurd h.2 (by simp)
  have hlong : maxSequence ≤ ('\x1b' :: '[' :: body ++ [c]).length ↔
      ¬body.length + 3 < maxSequence := by
    simp
  have hbody : slice? ('\x1b' :: '[' :: body ++ [c]) 2 ('\x1b' :: '[' :: body ++ [c]).length =
      some (body ++ [c]) := slice?_length (by simp)
  rw [HeldReader.pushSequence?, stepControl, if_neg hnotShort, if_neg hnotShifted]
  dsimp only
  rw [hbody]
  apply reads_ite
  · intro _
    refine (HeldReader.resolve?_concat {} body c).trans ?_
    split
    · rfl
    · rfl
  · intro _
    simp only [hlong]
    by_cases hroom : body.length + 3 < maxSequence
    · rw [if_neg (not_not_intro hroom), if_pos hroom]
      rfl
    · rw [if_pos hroom, if_neg hroom]
      rfl

/-- Both readers read a code point in the same way. -/
theorem reads_push (h : r.Bounded) (c : Char) : Reads (r.held.push? c) (r.step c) := by
  obtain ⟨mode, afterReturn⟩ := r
  -- the mode tells which code points are kept
  cases mode with
  | ground => exact reads_pushPlain afterReturn c
  | escape => exact reads_pushSequence_escape c
  | shifted => exact reads_pushSequence_shifted c
  | control body => exact reads_pushSequence_control body c
  | paste body =>
    obtain rfl : afterReturn = false := h.paste body rfl
    refine (HeldReader.pushPaste?_eq _ body c).trans ?_
    show _ = some ((stepPaste body c).1.held, (stepPaste body c).2)
    rw [stepPaste]
    split
    · rfl
    · rfl

theorem reads_pushAll (h : r.Bounded) (t : Text) : Reads (r.held.pushAll? t) (r.steps t) := by
  induction t generalizing r with
  | nil => rfl
  | cons c t ih =>
    rw [HeldReader.pushAll?, reads_push h]
    show Reads (do let others ← (r.step c).1.held.pushAll? t; _) _
    rw [ih (r.bounded_step c)]
    rfl

/-- Both readers read a chunk in the same way, and all accesses are in range. -/
theorem reads_feed (h : r.Bounded) (chunk : Text) : Reads (r.held.feed? chunk) (r.feed chunk) := by
  rw [HeldReader.feed?, reads_pushAll h, feed]
  dsimp only
  rw [settle]
  generalize (r.steps chunk).1 = after
  show Reads (if after.pending = ['\x1b'] then _ else _) _
  simp only [pending_eq_escape_iff]
  by_cases hescape : after.mode = .escape
  · rw [if_pos hescape, if_pos hescape]
    obtain ⟨mode, afterReturn⟩ := after
    obtain rfl : mode = .escape := hescape
    rfl
  · rw [if_neg hescape, if_neg hescape, List.append_nil]
    rfl

end KeyReader

end LineEditor

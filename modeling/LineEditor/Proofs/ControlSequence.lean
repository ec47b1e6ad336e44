import LineEditor.Key.Reader
import Mathlib.Tactic.SplitIfs

/-!
# Control sequences and text

A terminal sends control sequences for cursor keys, and also as answers to questions about itself.
None of them is meant as text: a sequence that is known stands for one key, and one that is unknown
for nothing. This has to hold for sequences of any length, since answers may be long.

A sequence is held until its final character comes, and dropped when it grows too long. What is
dropped then is only what is held; the reader is idle again in the middle of the sequence, and takes
the rest of it for text.

## Main definitions

* `ControlSequence` is a sequence with its parameters and its final character.
* `KeyReader.TypesNothing` — what was read is at most one key, which is no character.

## Main results

* `KeyReader.feed_text_of_short` and `KeyReader.feed_text_of_long` — what is read from a sequence.
* `KeyReader.typesNothing_iff` — a sequence types nothing exactly if it is shorter than the limit.
-/

namespace LineEditor

/-- A control sequence: parameters and intermediate characters, and the character that ends it. -/
structure ControlSequence where
  params : Text
  final : Char
  params_range : ∀ c ∈ params, ' ' ≤ c ∧ c ≤ '?'
  final_range : '@' ≤ final ∧ final ≤ '~'

/-- What a terminal sends for the sequence. -/
def ControlSequence.text (s : ControlSequence) : Text :=
  '\x1b' :: '[' :: (s.params ++ [s.final])

namespace KeyReader

/-- At most one key was read, which is no character, no paste was read, and nothing is pending. -/
structure TypesNothing (after : KeyReader × List Token) : Prop where
  atMostOne : after.2.length ≤ 1
  noText : ∀ token ∈ after.2, ∃ k, token = .key k ∧ ∀ c, k.code ≠ .char c
  idle : after.1.hasPending = false

variable {r : KeyReader} {s : ControlSequence} {body params t : Text} {final : Char}

/-! ### Inside a sequence -/

/-- A control sequence names no character key. -/
theorem code_ne_char_of_controlKey? {k : Key} (h : controlKey? params final = some k) (c : Char) :
    k.code ≠ .char c := by
  obtain ⟨code, hcode, rfl⟩ := Option.map_eq_some_iff.mp h
  rintro rfl
  split at hcode
  · simp only [numberedKey?] at hcode
    split_ifs at hcode <;> simp at hcode
  · simp only [cursorKey?] at hcode
    split at hcode <;> simp at hcode

theorem not_final_of_param {c : Char} (h : c ≤ '?') : ¬('@' ≤ c ∧ c ≤ '~') :=
  fun hfinal => absurd (Char.le_trans hfinal.1 h) (by decide)

/-- Parameters are held as long as there is room for them. -/
theorem steps_control (hparams : ∀ c ∈ params, ' ' ≤ c ∧ c ≤ '?')
    (hroom : body.length + params.length + 2 < maxSequence) :
    ({ mode := .control body } : KeyReader).steps params =
      ({ mode := .control (body ++ params) }, []) := by
  induction params generalizing body with
  | nil => simp
  | cons c params ih =>
    obtain ⟨hc, hrest⟩ := List.forall_mem_cons.mp hparams
    rw [List.length_cons] at hroom
    have hstep : ({ mode := .control body } : KeyReader).step c =
        ({ mode := .control (body ++ [c]) }, []) := by
      rw [step]
      exact (if_neg (not_final_of_param hc.2)).trans (if_pos (by omega))
    have hlonger : (body ++ [c]).length + params.length + 2 < maxSequence := by
      simp
      omega
    rw [steps_cons, hstep, ih hrest hlonger]
    simp

/-- The parameter that makes a sequence too long ends it. -/
theorem step_control_of_full {c : Char} (hc : c ≤ '?') (hfull : maxSequence ≤ body.length + 3) :
    ({ mode := .control body } : KeyReader).step c = ({}, []) := by
  rw [step]
  exact (if_neg (not_final_of_param hc)).trans (if_neg (by omega))

/-! ### Text outside a sequence -/

/-- What is no control character stands for itself. -/
theorem stepGround_of_not_isControl {c : Char} (afterReturn : Bool)
    (hc : Unicode.isControl c = false) :
    stepGround afterReturn c = ({}, [.key (.char c)]) := by
  have hne : ∀ d, Unicode.isControl d = true → c ≠ d := by
    rintro d hd rfl
    exact Bool.false_ne_true (hc.symm.trans hd)
  have hrange : ¬c.toNat < 0x20 := by
    intro hlt
    simp [Unicode.isControl, hlt] at hc
  have hletter : isLetterCode c = false := by
    simp [isLetterCode]
    omega
  rw [stepGround, if_neg (hne _ rfl), if_neg (hne _ rfl), if_neg (hne _ rfl), if_neg (hne _ rfl),
    if_neg (not_or_intro (hne _ rfl) (hne _ rfl)), if_neg (hne _ rfl), hletter, hc]
  simp
  omega

theorem steps_of_printable (ht : ∀ c ∈ t, ' ' ≤ c ∧ c ≤ '~') :
    ({} : KeyReader).steps t = ({}, t.map (Token.key ∘ Key.char)) := by
  induction t with
  | nil => rfl
  | cons c t ih =>
    obtain ⟨hc, hrest⟩ := List.forall_mem_cons.mp ht
    have hstep : ({} : KeyReader).step c = ({}, [.key (.char c)]) :=
      stepGround_of_not_isControl false (Unicode.isControl_eq_false_of_printable hc.1 hc.2)
    rw [steps_cons, hstep, ih hrest]
    rfl

/-! ### A whole sequence -/

/-- A sequence opens from any idle reader, also one behind a return. -/
theorem steps_text (hidle : r.hasPending = false) :
    r.steps s.text = ({ mode := .control [] } : KeyReader).steps (s.params ++ [s.final]) := by
  obtain ⟨mode, afterReturn⟩ := r
  obtain rfl : mode = .ground := by simpa [hasPending] using hidle
  rfl

/-- At the end of a chunk nothing is left to do for a reader that is idle. -/
theorem feed_of_steps_eq {tokens : List Token} (h : r.steps t = ({}, tokens)) :
    r.feed t = ({}, tokens) := by
  simp [feed, h, settle]

/-- The final character of a sequence that has been held gives the key, if there is one. -/
theorem feed_text_of_short (hidle : r.hasPending = false) (hpaste : s.text ≠ "\x1b[200~".toList)
    (hshort : s.params.length + 2 < maxSequence) :
    r.feed s.text = ({}, ((controlKey? s.params s.final).map Token.key).toList) := by
  have hheld : ({ mode := .control [] } : KeyReader).steps s.params =
      ({ mode := .control s.params }, []) :=
    steps_control s.params_range (by simpa using hshort)
  have hnotPaste : ¬(s.final = '~' ∧ s.params = pasteStart) := by
    rintro ⟨hfinal, hparams⟩
    exact hpaste (by rw [ControlSequence.text, hfinal, hparams]; rfl)
  have hfinal : ({ mode := .control s.params } : KeyReader).step s.final =
      ({}, ((controlKey? s.params s.final).map Token.key).toList) := by
    rw [step]
    exact (if_pos s.final_range).trans (if_neg hnotPaste)
  apply feed_of_steps_eq
  rw [steps_text hidle, steps_append, hheld, steps_cons, hfinal]
  simp

/-- The first parameters of a sequence that is too long are dropped. The rest of it is text. -/
theorem feed_text_of_long (hidle : r.hasPending = false)
    (hlong : maxSequence ≤ s.params.length + 2) :
    r.feed s.text =
      ({}, (s.params.drop (maxSequence - 2) ++ [s.final]).map (Token.key ∘ Key.char)) := by
  -- the parameters that are held, the one that makes the sequence too long, and the others
  obtain ⟨held, rest, hparams, hheld⟩ : ∃ held rest, s.params = held ++ rest ∧
      held.length = maxSequence - 3 :=
    ⟨_, _, (List.take_append_drop (maxSequence - 3) s.params).symm,
      List.length_take_of_le (by omega)⟩
  have hrange := s.params_range
  rw [hparams] at hrange hlong
  obtain ⟨hheldRange, hrestRange⟩ := List.forall_mem_append.mp hrange
  cases rest with
  | nil =>
    rw [List.append_nil, hheld] at hlong
    contradiction
  | cons c rest =>
    obtain ⟨hc, hrestRange⟩ := List.forall_mem_cons.mp hrestRange
    have hsteps : ({ mode := .control [] } : KeyReader).steps held =
        ({ mode := .control held }, []) :=
      steps_control hheldRange (by simp [hheld, maxSequence])
    have hdrop : ({ mode := .control held } : KeyReader).step c = ({}, []) :=
      step_control_of_full hc.2 (by simp [hheld, maxSequence])
    have hothers : s.params.drop (maxSequence - 2) = rest := by
      have hlength : maxSequence - 2 = held.length + 1 := by simp [hheld, maxSequence]
      rw [hparams, hlength, List.drop_length_add_append]
      rfl
    have hprintable : ∀ d ∈ rest ++ [s.final], ' ' ≤ d ∧ d ≤ '~' := by
      intro d hd
      rcases List.mem_append.mp hd with hd | hd
      · exact ⟨(hrestRange d hd).1, Char.le_trans (hrestRange d hd).2 (by decide)⟩
      · obtain rfl := List.mem_singleton.mp hd
        exact ⟨Char.le_trans (by decide) s.final_range.1, s.final_range.2⟩
    apply feed_of_steps_eq
    rw [steps_text hidle, hothers, hparams, List.append_assoc, List.cons_append, steps_append,
      hsteps, steps_cons, hdrop, steps_of_printable hprintable]
    rfl

/-- A control sequence, other than the mark that starts a paste, types nothing exactly if it is
shorter than the limit. A longer one types at least its final character. -/
theorem typesNothing_iff (hidle : r.hasPending = false) (hpaste : s.text ≠ "\x1b[200~".toList) :
    TypesNothing (r.feed s.text) ↔ s.params.length + 2 < maxSequence := by
  constructor
  · intro hnothing
    refine Nat.lt_of_not_le fun hlong => ?_
    have hfinal : Token.key (.char s.final) ∈ (r.feed s.text).2 := by
      rw [feed_text_of_long hidle hlong]
      simp
    obtain ⟨k, hk, hnone⟩ := hnothing.noText _ hfinal
    obtain rfl := Token.key.inj hk
    exact hnone s.final rfl
  · intro hshort
    rw [feed_text_of_short hidle hpaste hshort]
    refine ⟨?_, ?_, rfl⟩
    · cases controlKey? s.params s.final <;> simp
    · intro token htoken
      obtain ⟨k, hk, rfl⟩ := Option.map_eq_some_iff.mp (Option.mem_toList.mp htoken)
      exact ⟨k, rfl, code_ne_char_of_controlKey? hk⟩

/-- The sequence of a key with as many parameters as there is room for, behind a return, and one
with one parameter more. -/
theorem typesNothing_iff_at_limit :
    let r : KeyReader := { afterReturn := true }
    let s : ControlSequence := ⟨"0000000001;05".toList, 'C', by simp, by decide⟩
    let long : ControlSequence := ⟨"0000000001;005".toList, 'C', by simp, by decide⟩
    (r.hasPending = false ∧ s.text ≠ "\x1b[200~".toList ∧ long.text ≠ "\x1b[200~".toList) ∧
      TypesNothing (r.feed s.text) ∧ ¬TypesNothing (r.feed long.text) := by
  intro r s long
  have hidle : r.hasPending = false := rfl
  have hpaste : s.text ≠ "\x1b[200~".toList := by decide
  have hpaste' : long.text ≠ "\x1b[200~".toList := by decide
  refine ⟨⟨hidle, hpaste, hpaste'⟩, ?_, ?_⟩
  · exact (typesNothing_iff hidle hpaste).mpr (by decide)
  · exact mt (typesNothing_iff hidle hpaste').mp (by decide)

/-- A terminal that tells what it is capable of types the end of its answer. -/
theorem answer_types_text :
    let answer : ControlSequence := ⟨"?64;1;2;6;9;15;18;21;22".toList, 'c', by simp, by decide⟩
    answer.text ≠ "\x1b[200~".toList ∧
      ({} : KeyReader).feed answer.text = ({}, ";18;21;22c".toList.map (Token.key ∘ Key.char)) ∧
      ¬TypesNothing (({} : KeyReader).feed answer.text) := by
  intro answer
  have hfeed : ({} : KeyReader).feed answer.text =
      ({}, ";18;21;22c".toList.map (Token.key ∘ Key.char)) := by decide
  refine ⟨by decide, hfeed, ?_⟩
  intro hnothing
  have hlength := hnothing.atMostOne
  rw [hfeed] at hlength
  contradiction

end KeyReader

end LineEditor

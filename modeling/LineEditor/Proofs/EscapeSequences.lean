import LineEditor.Screen.Width

/-!
# Texts with escape sequences between their parts

Three forms of escape sequences are known, and all of them begin with the same character. Each form
tells by itself where it ends, whatever follows: a control sequence with its first final character,
an operating system command with the first bell or escape, and a short escape with its second
character. So a text in which parts of plain text and sequences take turns falls apart into just
these, even where sequences stand back to back or plain text looks like parameters, and what is left
of it is the plain text.

## Main definitions

* `EscapeSequence` is one sequence of a known form.
* `StyledText` is a text with sequences between its parts; `StyledText.text` is what is sent to a
  terminal and `StyledText.plain` what is meant to be seen.

## Main results

* `Screen.sequenceRest?_body_append` — each sequence is read up to its own end.
* `Screen.stripEscapes_text` — what is left of a styled text, and the cells it takes.
-/

namespace LineEditor.Screen

/-- What ends an operating system command. -/
inductive CommandEnd
  | bell
  | escapeBackslash
  deriving DecidableEq, Repr

/-- An escape sequence of a known form. -/
inductive EscapeSequence
  /-- Parameters, intermediate characters and a final one. -/
  | control (params intermediates : Text) (final : Char)
      (params_range : ∀ c ∈ params, '0' ≤ c ∧ c ≤ '?')
      (intermediates_range : ∀ c ∈ intermediates, ' ' ≤ c ∧ c ≤ '/')
      (final_range : '@' ≤ final ∧ final ≤ '~')
  /-- An operating system command. -/
  | command (body : Text) (finish : CommandEnd) (no_end : '\x07' ∉ body ∧ '\x1b' ∉ body)
  /-- A single character behind the escape character. -/
  | short (c : Char) (range : ('@' ≤ c ∧ c ≤ 'Z') ∨ c = '\\' ∨ c = '^' ∨ c = '_')

/-- The characters that end a command. -/
def CommandEnd.text : CommandEnd → Text
  | .bell => ['\x07']
  | .escapeBackslash => ['\x1b', '\\']

namespace EscapeSequence

/-- What follows the escape character. -/
def body : EscapeSequence → Text
  | control params intermediates final .. => '[' :: (params ++ intermediates ++ [final])
  | command body finish _ => ']' :: (body ++ finish.text)
  | short c _ => [c]

/-- What is sent to a terminal. -/
def text (s : EscapeSequence) : Text :=
  '\x1b' :: s.body

end EscapeSequence

/-- A text without escape characters, followed by any number of sequences, each with a text without
escape characters behind it. -/
structure StyledText where
  start : Text
  rest : List (EscapeSequence × Text)
  start_plain : '\x1b' ∉ start
  rest_plain : ∀ part ∈ rest, '\x1b' ∉ part.2

namespace StyledText

/-- What is sent to a terminal. -/
def text (s : StyledText) : Text :=
  s.start ++ s.rest.flatMap fun part => part.1.text ++ part.2

/-- The text without the sequences. -/
def plain (s : StyledText) : Text :=
  s.start ++ s.rest.flatMap Prod.snd

end StyledText

/-! ### One sequence -/

section Sequence

variable {params intermediates body : Text} {final c : Char}

/-- What ends a run of characters ends it wherever the run begins. -/
theorem dropWhile_append_cons {p : Char → Bool} (hbody : ∀ c ∈ body, p c = true)
    (hfinal : p final = false) (t : Text) : (body ++ final :: t).dropWhile p = final :: t := by
  rw [List.dropWhile_append_of_pos hbody, List.dropWhile_cons_of_neg (by simp [hfinal])]

theorem not_isParameter_of_intermediate (h : c ≤ '/') : isParameter c = false := by
  have hlow : ¬ '0' ≤ c := fun hparam => absurd (Char.le_trans hparam h) (by decide)
  simp [isParameter, hlow]

theorem not_isParameter_of_final (h : '@' ≤ c) : isParameter c = false := by
  have hhigh : ¬ c ≤ '?' := fun hparam => absurd (Char.le_trans h hparam) (by decide)
  simp [isParameter, hhigh]

theorem not_isIntermediate_of_final (h : '@' ≤ c) : isIntermediate c = false := by
  have hhigh : ¬ c ≤ '/' := fun hinter => absurd (Char.le_trans h hinter) (by decide)
  simp [isIntermediate, hhigh]

/-- The first final character ends a control sequence, since the three classes of characters in it
have nothing in common. -/
theorem controlRest?_append (hparams : ∀ c ∈ params, '0' ≤ c ∧ c ≤ '?')
    (hintermediates : ∀ c ∈ intermediates, ' ' ≤ c ∧ c ≤ '/') (hfinal : '@' ≤ final ∧ final ≤ '~')
    (t : Text) : controlRest? (params ++ (intermediates ++ final :: t)) = some t := by
  have hisParameter : ∀ c ∈ params, isParameter c = true := by
    simpa [isParameter] using hparams
  have hisIntermediate : ∀ c ∈ intermediates, isIntermediate c = true := by
    simpa [isIntermediate] using hintermediates
  have hafterParams : (params ++ (intermediates ++ final :: t)).dropWhile isParameter =
      intermediates ++ final :: t := by
    -- what comes behind the parameters, an intermediate character or the final one, is none
    cases intermediates with
    | nil => exact dropWhile_append_cons hisParameter (not_isParameter_of_final hfinal.1) t
    | cons c rest =>
      have hc := not_isParameter_of_intermediate (hintermediates c List.mem_cons_self).2
      exact dropWhile_append_cons hisParameter hc (rest ++ final :: t)
  have hafterIntermediates : (intermediates ++ final :: t).dropWhile isIntermediate = final :: t :=
    dropWhile_append_cons hisIntermediate (not_isIntermediate_of_final hfinal.1) t
  rw [controlRest?, hafterParams, hafterIntermediates]
  simp [isFinal, hfinal]

/-- The first bell, or the first escape with a backslash, ends a command. -/
theorem commandRest?_append (hbody : bell ∉ body ∧ escape ∉ body) (finish : CommandEnd) (t : Text) :
    commandRest? (body ++ (finish.text ++ t)) = some t := by
  have hinside : ∀ c ∈ body, (decide (c ≠ bell) && decide (c ≠ escape)) = true := by
    intro c hc
    have hbell : c ≠ bell := fun h => hbody.1 (h ▸ hc)
    have hescape : c ≠ escape := fun h => hbody.2 (h ▸ hc)
    simp [hbell, hescape]
  cases finish with
  | bell =>
    rw [commandRest?, CommandEnd.text, List.singleton_append,
      dropWhile_append_cons hinside (by decide)]
    -- the match looks one character beyond the bell, for a backslash behind an escape
    cases t with
    | nil => rfl
    | cons d rest => rfl
  | escapeBackslash =>
    rw [commandRest?, CommandEnd.text, List.cons_append, dropWhile_append_cons hinside (by decide)]
    rfl

/-- The second character of a short escape opens neither of the longer forms. -/
theorem isShort_of_range (h : ('@' ≤ c ∧ c ≤ 'Z') ∨ c = '\\' ∨ c = '^' ∨ c = '_') :
    isShort c = true ∧ c ≠ '[' ∧ c ≠ ']' := by
  rcases h with ⟨hlow, hhigh⟩ | rfl | rfl | rfl
  · refine ⟨by simp [isShort, hlow, hhigh], ?_, ?_⟩
    · rintro rfl
      exact absurd hhigh (by decide)
    · rintro rfl
      exact absurd hhigh (by decide)
  all_goals decide

/-- Each sequence is read up to its own end, whatever follows. -/
theorem sequenceRest?_body_append (s : EscapeSequence) (t : Text) :
    sequenceRest? (s.body ++ t) = some t := by
  cases s with
  | control params intermediates final hparams hintermediates hfinal =>
    have hrest := controlRest?_append hparams hintermediates hfinal t
    simp [EscapeSequence.body, sequenceRest?, hrest]
  | command body finish hbody =>
    have hrest := commandRest?_append hbody finish t
    simp [EscapeSequence.body, sequenceRest?, hrest]
  | short c hrange =>
    obtain ⟨hshort, hcontrol, hcommand⟩ := isShort_of_range hrange
    simp [EscapeSequence.body, sequenceRest?, hshort, hcontrol, hcommand]

end Sequence

/-! ### A whole text -/

theorem stripEscapes_sequence_append (s : EscapeSequence) (t : Text) :
    stripEscapes (s.text ++ t) = stripEscapes t := by
  have htext : s.text ++ t = escape :: (s.body ++ t) := rfl
  rw [htext, stripEscapes, if_pos rfl]
  split
  · next after hafter =>
    obtain rfl := Option.some.inj (hafter.symm.trans (sequenceRest?_body_append s t))
    rfl
  · next hnone =>
    rw [sequenceRest?_body_append] at hnone
    contradiction

theorem stripEscapes_append_of_no_escape {s : Text} (h : escape ∉ s) (t : Text) :
    stripEscapes (s ++ t) = s ++ stripEscapes t := by
  induction s with
  | nil => rfl
  | cons c s ih =>
    obtain ⟨hc, hs⟩ := not_or.mp (mt List.mem_cons.mpr h)
    rw [List.cons_append, stripEscapes_cons_of_ne (Ne.symm hc), ih hs, List.cons_append]

/-- Behind each sequence the text begins anew. -/
theorem stripEscapes_flatMap {parts : List (EscapeSequence × Text)}
    (h : ∀ part ∈ parts, escape ∉ part.2) :
    stripEscapes (parts.flatMap fun part => part.1.text ++ part.2) = parts.flatMap Prod.snd := by
  induction parts with
  | nil => exact stripEscapes_nil
  | cons part rest ih =>
    obtain ⟨hpart, hrest⟩ := List.forall_mem_cons.mp h
    rw [List.flatMap_cons, List.append_assoc, stripEscapes_sequence_append,
      stripEscapes_append_of_no_escape hpart, ih hrest, List.flatMap_cons]

theorem StyledText.not_mem_plain (s : StyledText) : escape ∉ s.plain := by
  intro hmem
  rcases List.mem_append.mp hmem with hstart | hrest
  · exact s.start_plain hstart
  · obtain ⟨part, hpart, hin⟩ := List.mem_flatMap.mp hrest
    exact s.rest_plain part hpart hin

/-- Of a text in which plain text and escape sequences take turns just the plain text is left, and
the whole takes the cells of the plain text. -/
theorem stripEscapes_text (s : StyledText) :
    stripEscapes s.text = s.plain ∧ visibleWidth s.text = visibleWidth s.plain := by
  have hstrip : stripEscapes s.text = s.plain := by
    rw [StyledText.text, stripEscapes_append_of_no_escape s.start_plain,
      stripEscapes_flatMap s.rest_plain]
    rfl
  refine ⟨hstrip, ?_⟩
  rw [visibleWidth, visibleWidth, hstrip, stripEscapes_of_no_escape s.not_mem_plain]

/-- All forms of sequences, two of them back to back, and text that looks like the rest of one. -/
theorem stripEscapes_text_every_form :
    ∃ s : StyledText,
      s.text = "a\x1b[0;1m\x1b]2;t\x1b\\[m\x1bM\x07".toList ∧ s.plain = "a[m\x07".toList ∧
        stripEscapes s.text = s.plain ∧ visibleWidth s.text = visibleWidth s.plain := by
  let bold : EscapeSequence := .control ['0', ';', '1'] [] 'm' (by simp) (by simp) (by decide)
  let title : EscapeSequence := .command "2;t".toList .escapeBackslash (by decide)
  let reverseIndex : EscapeSequence := .short 'M' (by decide)
  let s : StyledText :=
    { start := ['a']
      rest := [(bold, []), (title, "[m".toList), (reverseIndex, ['\x07'])]
      start_plain := by decide
      rest_plain := by decide }
  exact ⟨s, rfl, rfl, stripEscapes_text s⟩

end LineEditor.Screen

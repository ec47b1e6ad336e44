import LineEditor.Proofs.Access.Scan
import LineEditor.Proofs.QuotedWords
import LineEditor.Proofs.WordContent

/-!
# Where the words of a line are cut

A space ends a word where it is neither quoted nor escaped. The words on both sides of it are found
independently of each other, since a scan takes no notice of the words that it has found before.

The word to be completed begins behind the last separating space, which is told from the space and
the one character before it. The scan goes by the whole run of backslashes before the space. In a
run of even length backslashes escape each other and not the space, so that the space ends a word,
but does not separate for the shorter test.

## Main definitions

* `WordScan.CharDoes` is what one character may do to a scan.
* `WordScan.behind` is a scan that has found more words before.

## Main results

* `WordScan.charDoes_step`, and what follows from it: `WordScan.words_prefix_finish_foldl`.
* `WordScan.escaped_ofText` — a run of backslashes escapes what follows if its length is odd.
* `Words.words_ofLine_append_space` — the words on both sides of a space.
* `Words.lastWord_is_word_iff` — for which lines what follows the last separating space is a word.
-/

namespace LineEditor

namespace WordScan

open Text

variable {s s' : WordScan} {c : Char} {t : Text}

/-! ### What a character does -/

/-- The character is a space or a quote, and it is neither escaped nor in a verbatim part. -/
def MeetsMark (s : WordScan) (c : Char) : Prop :=
  s.escaped = false ∧ s.quoting ≠ .verbatim ∧ (c = ' ' ∨ c = '\'' ∨ c = '"')

/-- What a character may do to a scan. -/
inductive CharDoes (s : WordScan) (c : Char) : WordScan → Prop
  /-- The character becomes text, perhaps with a backslash that waited for it. -/
  | text {s' : WordScan} (more : Text) (hne : more ≠ []) (hwords : s'.words = s.words)
    (hword : s'.word = s.word ++ more) : CharDoes s c s'
  /-- The character would end a word if there were one. -/
  | passes {s' : WordScan} (hmark : s.MeetsMark c) (hempty : s.word = [])
    (hwords : s'.words = s.words) (hword : s'.word = []) : CharDoes s c s'
  | waits (hescaped : s.escaped = false) : CharDoes s c { s with escaped := true, prev := some c }
  | opens {quoting : Quoting} (hescaped : s.escaped = false) (hbare : s.quoting = .bare)
    (hquoting : quoting = .single ∧ c = '\'' ∨ quoting = .double ∧ c = '"') :
    CharDoes s c { s with quoting, prev := some c }
  | startsVerbatim (hstarts : s.StartsVerbatim c) :
    CharDoes s c { s with quoting := .verbatim, prev := some c }
  | ends {s' : WordScan} (hmark : s.MeetsMark c) (hne : s.word ≠ [])
    (hwords : s'.words = s.words ++ [s.word]) (hword : s'.word = []) : CharDoes s c s'
  | endsVerbatim {s' : WordScan} (hends : s.EndsVerbatim c)
    (hwords : s'.words = s.words ++ [s.word.dropLast]) (hword : s'.word = []) : CharDoes s c s'

/-- A character that closes the word being built, whatever becomes of the rest of the state. -/
theorem charDoes_close (hmark : s.MeetsMark c) (hwords : s'.words = s.close.words)
    (hword : s'.word = s.close.word) : s.CharDoes c s' := by
  by_cases hempty : s.word = []
  · rw [close_of_word_eq_nil hempty] at hwords hword
    exact .passes hmark hempty hwords (hword.trans hempty)
  · rw [close_of_word_ne_nil hempty] at hwords hword
    exact .ends hmark hempty hwords hword

theorem charDoes_onSpace (s : WordScan) : s.CharDoes ' ' { s.onSpace with prev := some ' ' } := by
  rw [onSpace]
  split
  · exact .text [' '] (List.cons_ne_nil _ _) rfl rfl
  · next hescaped =>
    split
    · next hbare =>
      exact charDoes_close ⟨Bool.eq_false_iff.mpr hescaped, by simp [hbare], .inl rfl⟩ rfl rfl
    · exact .text [' '] (List.cons_ne_nil _ _) rfl rfl

theorem charDoes_onBackslash (s : WordScan) :
    s.CharDoes '\\' { s.onBackslash with prev := some '\\' } := by
  rw [onBackslash]
  split
  · exact .text ['\\'] (List.cons_ne_nil _ _) rfl rfl
  · next h =>
    rw [Bool.or_eq_true, not_or] at h
    exact .waits (Bool.eq_false_iff.mpr h.1)

theorem charDoes_onSingleQuote (s : WordScan) :
    s.CharDoes '\'' { s.onSingleQuote with prev := some '\'' } := by
  rw [onSingleQuote]
  split
  · exact .text ['\''] (List.cons_ne_nil _ _) rfl rfl
  · next h =>
    have hescaped : s.escaped = false := Bool.eq_false_iff.mpr h
    split
    · next hbare => exact .opens hescaped hbare (.inl ⟨rfl, rfl⟩)
    · next hquoting =>
      exact charDoes_close ⟨hescaped, by simp [hquoting], .inr (.inl rfl)⟩ rfl rfl
    · exact .text ['\''] (List.cons_ne_nil _ _) rfl rfl
    · exact .text ['\''] (List.cons_ne_nil _ _) rfl rfl

theorem charDoes_onDoubleQuote (s : WordScan) :
    s.CharDoes '"' { s.onDoubleQuote with prev := some '"' } := by
  rw [onDoubleQuote]
  split
  · exact .text ['"'] (List.cons_ne_nil _ _) rfl rfl
  · next h =>
    have hescaped : s.escaped = false := Bool.eq_false_iff.mpr h
    split
    · next hbare => exact .opens hescaped hbare (.inr ⟨rfl, rfl⟩)
    · exact .text ['"'] (List.cons_ne_nil _ _) rfl rfl
    · next hquoting =>
      split
      · next hprev => exact .startsVerbatim ⟨rfl, hescaped, hquoting, hprev⟩
      · exact charDoes_close ⟨hescaped, by simp [hquoting], .inr (.inr rfl)⟩ rfl rfl
    · next hquoting =>
      split
      · next hprev => exact .endsVerbatim ⟨rfl, hescaped, hquoting, hprev⟩ rfl rfl
      · exact .text ['"'] (List.cons_ne_nil _ _) rfl rfl

theorem charDoes_onOther (s : WordScan) (c : Char) :
    s.CharDoes c { s.onOther c with prev := some c } := by
  rw [onOther]
  split
  · exact .text ['\\', c] (List.cons_ne_nil _ _) rfl (List.append_assoc _ _ _)
  · exact .text [c] (List.cons_ne_nil _ _) rfl rfl

theorem charDoes_step (s : WordScan) (c : Char) : s.CharDoes c (s.step c) :=
  s.step_elim (P := fun c s' => s.CharDoes c s') c s.charDoes_onSpace s.charDoes_onBackslash
    s.charDoes_onSingleQuote s.charDoes_onDoubleQuote (s.charDoes_onOther c)

/-- The words that have been found stay. -/
theorem CharDoes.keeps_words (h : s.CharDoes c s') : s.words <+: s'.words := by
  cases h with
  | text _ _ hwords => rw [hwords]
  | passes _ _ hwords => rw [hwords]
  | waits | opens | startsVerbatim => exact List.prefix_rfl
  | ends _ _ hwords => exact hwords ▸ List.prefix_append _ _
  | endsVerbatim _ hwords => exact hwords ▸ List.prefix_append _ _

/-- The end of the line adds the word that is being built, if there is one, perhaps with a backslash
that waits. -/
theorem finish_cases (s : WordScan) :
    s.word = [] ∧ s.escaped = false ∧ s.finish = s.words ∨
      ∃ w, w ≠ [] ∧ s.word <+: w ∧ s.finish = s.words ++ [w] := by
  rw [finish]
  split
  · have hne : (s.put '\\').word ≠ [] :=
      List.append_ne_nil_of_right_ne_nil _ (List.cons_ne_nil _ _)
    rw [close_of_word_ne_nil hne]
    exact .inr ⟨_, hne, List.prefix_append _ _, rfl⟩
  · next hescaped =>
    by_cases hempty : s.word = []
    · rw [close_of_word_eq_nil hempty]
      exact .inl ⟨hempty, Bool.eq_false_iff.mpr hescaped, rfl⟩
    · rw [close_of_word_ne_nil hempty]
      exact .inr ⟨_, hempty, List.prefix_rfl, rfl⟩

theorem words_prefix_finish (s : WordScan) : s.words <+: s.finish := by
  rcases s.finish_cases with ⟨-, -, hfinish⟩ | ⟨w, -, -, hfinish⟩
  · rw [hfinish]
  · exact hfinish ▸ List.prefix_append _ _

/-- The words that have been found are among those of the whole line, at the same places. -/
theorem words_prefix_finish_foldl (s : WordScan) (t : Text) :
    s.words <+: (t.foldl step s).finish := by
  induction t generalizing s with
  | nil => exact s.words_prefix_finish
  | cons c t ih => exact (s.charDoes_step c).keeps_words.trans (ih _)

/-- There is a word already, or the beginning of one. -/
def HasWord (s : WordScan) : Prop :=
  s.words ≠ [] ∨ s.word ≠ [] ∨ s.escaped = true

theorem HasWord.step (h : s.HasWord) (c : Char) : (s.step c).HasWord := by
  have hdoes := s.charDoes_step c
  generalize s.step c = s' at hdoes ⊢
  cases hdoes with
  | text more hne hwords hword =>
    exact .inr (.inl (hword ▸ List.append_ne_nil_of_right_ne_nil _ hne))
  | passes hmark hempty hwords hword =>
    rcases h with h | h | h
    · exact .inl (hwords ▸ h)
    · exact absurd hempty h
    · exact absurd (hmark.1.symm.trans h) Bool.noConfusion
  | waits hescaped => exact .inr (.inr rfl)
  | opens | startsVerbatim => exact h
  | ends _ _ hwords | endsVerbatim _ hwords =>
    exact .inl (hwords ▸ List.append_ne_nil_of_right_ne_nil _ (List.cons_ne_nil _ _))

theorem HasWord.finish_ne_nil (h : s.HasWord) : s.finish ≠ [] := by
  rcases s.finish_cases with ⟨hempty, hescaped, hfinish⟩ | ⟨w, -, -, hfinish⟩
  · rcases h with h | h | h
    · exact hfinish ▸ h
    · exact absurd hempty h
    · exact absurd (hescaped.symm.trans h) Bool.noConfusion
  · exact hfinish ▸ List.append_ne_nil_of_right_ne_nil _ (List.cons_ne_nil _ _)

theorem HasWord.foldl (h : s.HasWord) (t : Text) : (t.foldl WordScan.step s).HasWord := by
  induction t generalizing s with
  | nil => exact h
  | cons c t ih => exact ih (h.step c)

/-- A text that does not begin with a space or a quote has a word. -/
theorem finish_ofText_cons_ne_nil (hspace : c ≠ ' ') (hsingle : c ≠ '\'') (hdouble : c ≠ '"')
    (t : Text) : (ofText (c :: t)).finish ≠ [] := by
  have hfirst : (({} : WordScan).step c).HasWord := by
    by_cases hbackslash : c = '\\'
    · exact .inr (.inr (hbackslash ▸ rfl))
    · refine .inr (.inl ?_)
      simp [step, onOther, put, hspace, hbackslash, hsingle, hdouble]
  exact (hfirst.foldl t).finish_ne_nil

/-! ### Words that were found before -/

/-- The scan, if it had found more words before. -/
def behind (s : WordScan) (before : List Text) : WordScan :=
  { s with words := before ++ s.words }

section Behind

variable (s : WordScan) (before : List Text)

@[simp]
theorem words_behind : (s.behind before).words = before ++ s.words := rfl

@[simp]
theorem word_behind : (s.behind before).word = s.word := rfl

@[simp]
theorem escaped_behind : (s.behind before).escaped = s.escaped := rfl

@[simp]
theorem quoting_behind : (s.behind before).quoting = s.quoting := rfl

@[simp]
theorem prev_behind : (s.behind before).prev = s.prev := rfl

theorem flush_behind : (s.behind before).flush = s.flush.behind before := by
  simp [flush, behind]

theorem close_behind : (s.behind before).close = s.close.behind before := by
  rw [close, close, flush_behind, word_behind]
  split <;> rfl

theorem onSpace_behind : (s.behind before).onSpace = s.onSpace.behind before := by
  rw [onSpace, onSpace, close_behind, escaped_behind, quoting_behind]
  split
  · rfl
  · split <;> rfl

theorem onBackslash_behind : (s.behind before).onBackslash = s.onBackslash.behind before := by
  rw [onBackslash, onBackslash, escaped_behind, quoting_behind]
  split <;> rfl

theorem onSingleQuote_behind :
    (s.behind before).onSingleQuote = s.onSingleQuote.behind before := by
  rw [onSingleQuote, onSingleQuote, close_behind, escaped_behind, quoting_behind]
  split
  · rfl
  · split <;> rfl

theorem onDoubleQuote_behind :
    (s.behind before).onDoubleQuote = s.onDoubleQuote.behind before := by
  have hdrop : ({ s.behind before with word := s.word.dropLast } : WordScan).flush =
      ({ s with word := s.word.dropLast } : WordScan).flush.behind before :=
    flush_behind { s with word := s.word.dropLast } before
  rw [onDoubleQuote, onDoubleQuote, close_behind, escaped_behind, quoting_behind, prev_behind]
  split
  · rfl
  · split
    · rfl
    · rfl
    · split <;> rfl
    · split
      · exact congrArg (fun r : WordScan => { r with quoting := .bare }) hdrop
      · rfl

theorem onOther_behind (c : Char) : (s.behind before).onOther c = (s.onOther c).behind before := by
  rw [onOther, onOther, escaped_behind]
  split <;> rfl

/-- A scan takes no notice of the words that it has found before. -/
theorem step_behind (c : Char) : (s.behind before).step c = (s.step c).behind before := by
  rw [step, step, onSpace_behind, onBackslash_behind, onSingleQuote_behind, onDoubleQuote_behind,
    onOther_behind]
  split
  · rfl
  · split
    · rfl
    · split
      · rfl
      · split <;> rfl

theorem foldl_step_behind (t : Text) :
    t.foldl step (s.behind before) = (t.foldl step s).behind before :=
  List.foldl_hom (behind · before) fun s c => s.step_behind before c

theorem finish_behind : (s.behind before).finish = before ++ s.finish := by
  have hput : (s.behind before).put '\\' = (s.put '\\').behind before := rfl
  rw [finish, finish, escaped_behind, hput]
  split
  · rw [close_behind, words_behind]
  · rw [close_behind, words_behind]

end Behind

theorem finish_eq_of_escaped_eq (hescaped : s.escaped = false) : s.finish = s.close.words := by
  rw [finish, if_neg (Bool.eq_false_iff.mp hescaped)]

/-- A space outside of quotations that is not escaped ends all the words before it. -/
theorem step_space_eq (hquoting : s.quoting = .bare) (hescaped : s.escaped = false) :
    s.step ' ' = ({ prev := some ' ' } : WordScan).behind s.finish := by
  have hstep : s.step ' ' = { s.close with prev := some ' ' } := by
    simp [step, onSpace, hquoting, hescaped]
  have hclose : s.close = ⟨s.close.words, [], false, .bare, s.close.prev⟩ := by
    rw [← s.word_close, ← hescaped, ← hquoting, ← s.escaped_close, ← s.quoting_close]
  rw [hstep, finish_eq_of_escaped_eq hescaped, hclose]
  simp [behind]

/-- Behind a space a scan goes on as at the beginning of a text. -/
theorem finish_foldl_step_space (t : Text) :
    (t.foldl step { prev := some ' ' }).finish = (ofText t).finish := by
  cases t with
  | nil => rfl
  | cons c t =>
    have hstep : ({ prev := some ' ' } : WordScan).step c = ({} : WordScan).step c := by
      rw [step, step]
      split
      · rfl
      · split
        · rfl
        · split
          · rfl
          · split <;> rfl
    rw [List.foldl_cons, hstep]
    rfl

/-! ### What is escaped -/

/-- A character other than a backslash leaves nothing that waits. -/
theorem escaped_step_of_ne (h : c ≠ '\\') (s : WordScan) : (s.step c).escaped = false := by
  revert h
  apply s.step_elim (P := fun c s' => c ≠ '\\' → s'.escaped = false) c
  · intro _
    simp only [onSpace]
    split
    · rfl
    · next h =>
      split
      · exact s.escaped_close.trans (Bool.eq_false_iff.mpr h)
      · exact Bool.eq_false_iff.mpr h
  · exact fun h => absurd rfl h
  · intro _
    simp only [onSingleQuote]
    split
    · rfl
    · next h =>
      have hescaped : s.escaped = false := Bool.eq_false_iff.mpr h
      split
      · exact hescaped
      · exact s.escaped_close.trans hescaped
      · exact hescaped
      · rfl
  · intro _
    simp only [onDoubleQuote]
    split
    · rfl
    · next h =>
      have hescaped : s.escaped = false := Bool.eq_false_iff.mpr h
      split
      · exact hescaped
      · exact hescaped
      · split
        · exact hescaped
        · exact s.escaped_close.trans hescaped
      · split
        · exact hescaped
        · rfl
  · intro _
    simp only [onOther]
    split
    · rfl
    · next h => exact Bool.eq_false_iff.mpr h

/-- A backslash waits for what follows unless it is escaped itself or verbatim. -/
theorem step_backslash (s : WordScan) :
    (s.step '\\').quoting = s.quoting ∧
      (s.step '\\').escaped = (!s.escaped && s.quoting != .verbatim) := by
  have hstep : s.step '\\' = { s.onBackslash with prev := some '\\' } := rfl
  have hwaits : (!s.escaped && s.quoting != .verbatim) = !(s.escaped || s.quoting = .verbatim) :=
    (Bool.not_or _ _).symm
  rw [hstep, hwaits]
  simp only [onBackslash]
  split
  · next h => exact ⟨rfl, by rw [h]; rfl⟩
  · next h => exact ⟨rfl, by rw [Bool.eq_false_iff.mpr h]; rfl⟩

/-- A run of backslashes escapes what follows it if its length is odd, except in a verbatim part. -/
theorem escaped_ofText (t : Text) :
    (ofText t).escaped = (t.endsInEscape && (ofText t).quoting != .verbatim) := by
  induction t using List.reverseRecOn with
  | nil => rfl
  | append_singleton t c ih =>
    rw [ofText_concat, endsInEscape_concat]
    by_cases hc : c = '\\'
    · subst hc
      obtain ⟨hquoting, hescaped⟩ := (ofText t).step_backslash
      rw [hescaped, hquoting, ih]
      cases (ofText t).quoting != .verbatim <;> simp
    · rw [escaped_step_of_ne hc]
      simp [hc]

theorem escaped_ofText_eq_false (h : t.endsInEscape = false) : (ofText t).escaped = false := by
  rw [escaped_ofText, h, Bool.false_and]

/-! ### Texts without quotes -/

theorem quoting_step_of_ne (hsingle : c ≠ '\'') (hdouble : c ≠ '"') (s : WordScan) :
    (s.step c).quoting = s.quoting := by
  by_cases hspace : c = ' '
  · have hstep : s.step ' ' = { s.onSpace with prev := some ' ' } := rfl
    rw [hspace, hstep]
    simp only [onSpace]
    split
    · rfl
    · split
      · exact s.quoting_close
      · rfl
  · by_cases hbackslash : c = '\\'
    · rw [hbackslash]
      exact s.step_backslash.1
    · exact (step_of_isOrdinary (isOrdinary_iff.mpr ⟨hspace, hbackslash, hsingle, hdouble⟩) s).1

/-- A word is ended by quotes and by spaces that are not escaped, and by nothing else. -/
theorem words_step_of_ne_quote (hsingle : c ≠ '\'') (hdouble : c ≠ '"')
    (hspace : c = ' ' → s.escaped = true) : (s.step c).words = s.words := by
  by_cases hc : c = ' '
  · have hescaped := hspace hc
    subst hc
    simp [step, onSpace, hescaped, putEscaped, put]
  · by_cases hbackslash : c = '\\'
    · subst hbackslash
      simp only [step, onBackslash, hc, if_false, if_true]
      split <;> rfl
    · simp only [step, onOther, hc, hbackslash, hsingle, hdouble, if_false]
      split <;> rfl

/-- Without quotes there are no quotations. -/
theorem quoting_ofText_of_not_mem (hsingle : '\'' ∉ t) (hdouble : '"' ∉ t) :
    (ofText t).quoting = .bare := by
  induction t using List.reverseRecOn with
  | nil => rfl
  | append_singleton t c ih =>
    rw [List.mem_append, List.mem_singleton, not_or] at hsingle hdouble
    rw [ofText_concat, quoting_step_of_ne (Ne.symm hsingle.2) (Ne.symm hdouble.2)]
    exact ih hsingle.1 hdouble.1

/-- Without quotes, and if all spaces are escaped, no word is ended. -/
theorem words_ofText_of_forall_space (hsingle : '\'' ∉ t) (hdouble : '"' ∉ t)
    (hspaces : ∀ p r, t = p ++ ' ' :: r → p.endsInEscape = true) : (ofText t).words = [] := by
  induction t using List.reverseRecOn with
  | nil => rfl
  | append_singleton t c ih =>
    rw [List.mem_append, List.mem_singleton, not_or] at hsingle hdouble
    have hwords : (ofText t).words = [] := by
      refine ih hsingle.1 hdouble.1 fun p r heq => hspaces p (r ++ [c]) ?_
      rw [heq, List.append_assoc]
      rfl
    have hescaped : c = ' ' → (ofText t).escaped = true := by
      rintro rfl
      rw [escaped_ofText, hspaces t [] rfl, quoting_ofText_of_not_mem hsingle.1 hdouble.1]
      rfl
    rw [ofText_concat]
    generalize ofText t = s at hwords hescaped
    rw [words_step_of_ne_quote (Ne.symm hsingle.2) (Ne.symm hdouble.2) hescaped, hwords]

theorem length_finish_le_one (h : s.words = []) : s.finish.length ≤ 1 := by
  rcases s.finish_cases with ⟨-, -, hfinish⟩ | ⟨w, -, -, hfinish⟩
  · simp [hfinish, h]
  · simp [hfinish, h]

end WordScan

namespace Text

open WordScan

variable {t p r : Text}

theorem getLast?_eq_of_endsInEscape (h : t.endsInEscape = true) : t.getLast? = some '\\' := by
  rcases List.eq_nil_or_concat' t with rfl | ⟨before, c, rfl⟩
  · contradiction
  · rw [endsInEscape_concat, Bool.and_eq_true, decide_eq_true_eq] at h
    rw [List.getLast?_concat, h.1]

/-- A text is its own last word, or a separating space stands in front of its last word. -/
theorem lastWord_eq_self_or (t : Text) :
    lastWord t = t ∨ ∃ p, t = p ++ ' ' :: lastWord t ∧ p.getLast? ≠ some '\\' := by
  induction t using List.reverseRecOn with
  | nil => exact .inl rfl
  | append_singleton t c ih =>
    rw [Access.lastWord_concat]
    split
    · next h =>
      obtain ⟨rfl, hlast⟩ := separates_eq_true_iff.mp h
      exact .inr ⟨t, rfl, hlast⟩
    · rcases ih with heq | ⟨p, heq, hlast⟩
      · exact .inl (by rw [heq])
      · refine .inr ⟨p, ?_, hlast⟩
        conv_lhs => rw [heq]
        simp

/-- A space in the last word has a backslash before it. -/
theorem getLast?_of_lastWord_eq (h : lastWord t = p ++ ' ' :: r) : p.getLast? = some '\\' := by
  induction t using List.reverseRecOn generalizing r with
  | nil => simp [lastWord, lastWordFrom] at h
  | append_singleton t c ih =>
    rw [Access.lastWord_concat] at h
    split at h
    · simp at h
    · next hnot =>
      rcases List.eq_nil_or_concat' r with rfl | ⟨r, d, rfl⟩
      · obtain ⟨rfl, hc⟩ := List.append_inj' h rfl
        obtain rfl := List.singleton_inj.mp hc
        have hlast : t.getLast? = some '\\' := by simpa using hnot
        -- the backslash is in the last word as well
        obtain ⟨before, rfl⟩ := List.getLast?_eq_some_iff.mp hlast
        rw [Access.lastWord_concat, if_neg (by simp), List.getLast?_concat]
      · rw [← List.cons_append, ← List.append_assoc] at h
        exact ih (List.append_inj' h rfl).1

/-- A character of the last word that no backslash stands before is no space. -/
theorem ne_space_of_lastWord_eq {c : Char} (h : lastWord t = p ++ c :: r)
    (hp : p.getLast? ≠ some '\\') : c ≠ ' ' := by
  rintro rfl
  exact hp (getLast?_of_lastWord_eq h)

theorem mem_of_mem_lastWord {c : Char} (h : c ∈ lastWord t) : c ∈ t := by
  rcases lastWord_eq_self_or t with heq | ⟨p, heq, -⟩
  · rwa [heq] at h
  · rw [heq]
    exact List.mem_append_right _ (List.mem_cons_of_mem _ h)

end Text

namespace Words

open Text WordScan

variable {s t p r : Text}

theorem status_ofLine_eq_complete_iff :
    (ofLine t none).status = .complete ↔ (WordScan.ofText t).quoting = .bare := by
  rw [ofLine]
  by_cases h : (WordScan.ofText t).quoting = .bare
  · simp [h]
  · simp [h]

theorem status_ofLine_of_not_mem (hsingle : '\'' ∉ t) (hdouble : '"' ∉ t) :
    (ofLine t none).status = .complete :=
  status_ofLine_eq_complete_iff.mpr (quoting_ofText_of_not_mem hsingle hdouble)

/-- The words on both sides of a space that is neither quoted nor escaped. -/
theorem words_ofLine_append_space (hcomplete : (ofLine s none).status = .complete)
    (hescape : s.endsInEscape = false) :
    (ofLine (s ++ ' ' :: t) none).words = (ofLine s none).words ++ (ofLine t none).words := by
  have hquoting := status_ofLine_eq_complete_iff.mp hcomplete
  have hescaped := escaped_ofText_eq_false hescape
  have hscan : WordScan.ofText (s ++ ' ' :: t) =
      (t.foldl step { prev := some ' ' }).behind (WordScan.ofText s).finish := by
    rw [WordScan.ofText, List.foldl_append, List.foldl_cons, ← foldl_step_behind,
      ← step_space_eq hquoting hescaped]
    rfl
  rw [words_ofLine, words_ofLine, words_ofLine, hscan, finish_behind, finish_foldl_step_space]

/-- The words of a text without quotes end in those of what follows the last separating space. -/
theorem words_ofLine_lastWord (hsingle : '\'' ∉ t) (hdouble : '"' ∉ t) :
    (ofLine (lastWord t) none).words <:+ (ofLine t none).words := by
  rcases lastWord_eq_self_or t with heq | ⟨p, heq, hlast⟩
  · rw [heq]
  · have hsub : ∀ c ∈ p, c ∈ t := fun c hc => heq ▸ List.mem_append_left _ hc
    have hcomplete := status_ofLine_of_not_mem (mt (hsub _) hsingle) (mt (hsub _) hdouble)
    have hescape : p.endsInEscape = false :=
      Bool.eq_false_iff.mpr (mt getLast?_eq_of_endsInEscape hlast)
    have hwords := words_ofLine_append_space (t := lastWord t) hcomplete hescape
    rw [← heq] at hwords
    rw [hwords]
    exact List.suffix_append _ _

/-- Any part of what follows the last separating space, from a character that no backslash stands
before, has a word. -/
theorem words_ofLine_ne_nil_of_part {c : Char} {w : Text} (hsingle : '\'' ∉ t) (hdouble : '"' ∉ t)
    (h : lastWord t = p ++ c :: w ++ r) (hp : p.getLast? ≠ some '\\') :
    (ofLine (c :: w) none).words ≠ [] := by
  have hc : c ∈ t := mem_of_mem_lastWord (h ▸ by simp)
  have hspace : c ≠ ' ' := by
    rw [List.append_assoc, List.cons_append] at h
    exact ne_space_of_lastWord_eq h hp
  exact finish_ofText_cons_ne_nil hspace (ne_of_mem_of_not_mem hc hsingle)
    (ne_of_mem_of_not_mem hc hdouble) w

/-- Where all spaces but one at the end are escaped, there is one word at most. -/
theorem length_words_ofLine_le_one (hsingle : '\'' ∉ t) (hdouble : '"' ∉ t)
    (hspaces : ∀ p r, t = p ++ ' ' :: r → r ≠ [] → p.endsInEscape = true) :
    (ofLine t none).words.length ≤ 1 := by
  by_cases hend : ∃ s, t = s ++ [' '] ∧ s.endsInEscape = false
  · obtain ⟨s, rfl, hescape⟩ := hend
    rw [List.mem_append, not_or] at hsingle hdouble
    have hcomplete := status_ofLine_of_not_mem hsingle.1 hdouble.1
    have hwords := words_ofLine_append_space (t := []) hcomplete hescape
    have hnil : (ofLine [] none).words = [] := rfl
    rw [hwords, hnil, List.append_nil]
    refine length_finish_le_one (words_ofText_of_forall_space hsingle.1 hdouble.1 ?_)
    intro p r heq
    refine hspaces p (r ++ [' ']) ?_ (List.append_ne_nil_of_right_ne_nil _ (List.cons_ne_nil _ _))
    rw [heq, List.append_assoc]
    rfl
  · refine length_finish_le_one (words_ofText_of_forall_space hsingle hdouble ?_)
    intro p r heq
    by_cases hr : r = []
    · subst hr
      rw [← Bool.not_eq_false]
      exact fun hescape => hend ⟨p, heq, hescape⟩
    · exact hspaces p r heq hr

/-- A space in the last word that is not escaped, and has something behind it, has a word on both
sides. -/
theorem two_le_length_words_ofLine_lastWord (hsingle : '\'' ∉ t) (hdouble : '"' ∉ t)
    (h : lastWord t = p ++ ' ' :: r) (hr : r ≠ []) (hescape : p.endsInEscape = false) :
    2 ≤ (ofLine (lastWord t) none).words.length := by
  have hmem : ∀ c ∈ p, c ∈ t := fun c hc => mem_of_mem_lastWord (h ▸ List.mem_append_left _ hc)
  have hcomplete := status_ofLine_of_not_mem (mt (hmem _) hsingle) (mt (hmem _) hdouble)
  have hbefore : 0 < (ofLine p none).words.length := by
    have hlast := getLast?_of_lastWord_eq h
    obtain ⟨c, w, rfl⟩ := List.exists_cons_of_ne_nil (List.getLast?_isSome.mp (by rw [hlast]; rfl))
    exact List.length_pos_iff.mpr
      (words_ofLine_ne_nil_of_part (p := []) hsingle hdouble h (by simp))
  have hbehind : 0 < (ofLine r none).words.length := by
    obtain ⟨d, v, rfl⟩ := List.exists_cons_of_ne_nil hr
    have hpart : lastWord t = (p ++ [' ']) ++ d :: v ++ [] := by simp [h]
    exact List.length_pos_iff.mpr (words_ofLine_ne_nil_of_part hsingle hdouble hpart (by simp))
  rw [h, words_ofLine_append_space hcomplete hescape, List.length_append]
  omega

theorem exists_getLast?_words_ofLine_lastWord (hsingle : '\'' ∉ t) (hdouble : '"' ∉ t)
    (hne : lastWord t ≠ []) :
    ∃ w, (ofLine (lastWord t) none).words.getLast? = some w ∧
      (ofLine t none).words.getLast? = some w := by
  have hwords : (ofLine (lastWord t) none).words ≠ [] := by
    obtain ⟨c, w, hcons⟩ := List.exists_cons_of_ne_nil hne
    have hpart : lastWord t = [] ++ c :: w ++ [] := by simp [hcons]
    rw [hcons]
    exact words_ofLine_ne_nil_of_part hsingle hdouble hpart (by simp)
  obtain ⟨before, hbefore⟩ := words_ofLine_lastWord hsingle hdouble
  have hlast := List.getLast?_eq_some_getLast hwords
  refine ⟨_, hlast, ?_⟩
  rw [← hbefore, List.getLast?_append_of_ne_nil _ hwords, hlast]

/-- What follows the last separating space of a text without quotes always ends in the last word of
the text. It is this word and nothing else exactly if all its spaces, but for one at its end, have a
run of backslashes of odd length before them. -/
theorem lastWord_is_word_iff (hsingle : '\'' ∉ t) (hdouble : '"' ∉ t) :
    (lastWord t ≠ [] →
      ∃ w, (ofLine (lastWord t) none).words.getLast? = some w ∧
        (ofLine t none).words.getLast? = some w) ∧
      ((ofLine (lastWord t) none).words.length ≤ 1 ∧
        (lastWord t ≠ [] →
          ∃ w, (ofLine (lastWord t) none).words = [w] ∧
            (ofLine t none).words.getLast? = some w) ↔
        ∀ p r, lastWord t = p ++ ' ' :: r → r ≠ [] → p.endsInEscape = true) := by
  have hlast := exists_getLast?_words_ofLine_lastWord hsingle hdouble
  refine ⟨hlast, ?_, ?_⟩
  · rintro ⟨hone, -⟩ p r h hr
    rw [← Bool.not_eq_false]
    intro hescape
    have htwo := two_le_length_words_ofLine_lastWord hsingle hdouble h hr hescape
    omega
  · intro hspaces
    have hone := length_words_ofLine_le_one (mt mem_of_mem_lastWord hsingle)
      (mt mem_of_mem_lastWord hdouble) hspaces
    refine ⟨hone, fun hne => ?_⟩
    obtain ⟨w, hw, hwt⟩ := hlast hne
    refine ⟨w, ?_, hwt⟩
    obtain ⟨before, hbefore⟩ := List.getLast?_eq_some_iff.mp hw
    rw [hbefore, List.length_append, List.length_singleton] at hone
    have hnil : before = [] := List.length_eq_zero_iff.mp (by omega)
    rw [hbefore, hnil, List.nil_append]

/-- A space behind three backslashes, and one behind two of them at the end. -/
theorem lastWord_is_word_iff_long_runs :
    let t : Text := "ls a\\\\\\ b\\\\ ".toList
    '\'' ∉ t ∧ '"' ∉ t ∧ lastWord t = "a\\\\\\ b\\\\ ".toList ∧
      (ofLine (lastWord t) none).words = ["a\\ b\\".toList] ∧
      ∀ p r, lastWord t = p ++ ' ' :: r → r ≠ [] → p.endsInEscape = true := by
  intro t
  have hsingle : '\'' ∉ t := by decide
  have hdouble : '"' ∉ t := by decide
  have hword : (ofLine (lastWord t) none).words = ["a\\ b\\".toList] := by decide
  refine ⟨hsingle, hdouble, by decide, hword, ?_⟩
  refine (lastWord_is_word_iff hsingle hdouble).2.mp ⟨hword ▸ Nat.le_refl 1, fun _ => ?_⟩
  exact ⟨_, hword, by decide⟩

/-- A space behind two backslashes: there are two words, and to the shorter test they are one. -/
theorem lastWord_is_two_words :
    let t : Text := "a\\\\ b".toList
    '\'' ∉ t ∧ '"' ∉ t ∧ lastWord t = t ∧
      (ofLine (lastWord t) none).words = ["a\\".toList, "b".toList] ∧
      ¬(ofLine (lastWord t) none).words.length ≤ 1 := by
  decide

end Words

end LineEditor
